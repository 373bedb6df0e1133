import Xkk.Cluster.Authentication
import Xkk.Logic.ItemCalls
import Xkk.Public.Mail

/-! # For whom a request is carried out

A connection is bound to a player after `verify_online` and a login at Logic.
`forward` puts the player and the session of the connection into the head of the
RPC, and Logic and Public take the player from there; `claim` passes the head on
to Logic.  Calls may be lost, delivered late, and delivered again.
-/

namespace Xkk.Cluster

open Xkk.Lib Xkk.Protocol
open Xkk.Gate (RecordHandler)
open Xkk.Auth (TokenCoder)

structure RouteIdentity where
  key : UInt64
  session : UInt64
deriving DecidableEq, Repr

def RouteIdentity.fromSigned (key session : Int64) : Option RouteIdentity :=
  if 0 < key ∧ 0 < session then some ⟨key.toUInt64, session.toUInt64⟩ else none

theorem toNat_of_pos {n : Int64} (positive : 0 < n) : (n.toUInt64.toNat : Int) = n.toInt := by
  have isPos : 0 < n.toBitVec.toInt := Int64.lt_iff_toInt_lt.mp positive
  change (n.toBitVec.toNat : Int) = n.toBitVec.toInt
  rw [BitVec.toInt_eq_toNat_cond] at isPos ⊢
  split at isPos
  next small => rw [if_pos small]
  next =>
    have := n.toBitVec.isLt
    omega

/-- The player that a head was made for. -/
theorem head_gid {gid session : Int64} {route : RouteIdentity}
    (isRoute : RouteIdentity.fromSigned gid session = some route) :
    Logic.validContextGid ⟨route.key, route.session⟩ = some gid
    ∧ Public.playerGid ⟨route.key, route.session⟩ = some gid.toInt := by
  simp only [RouteIdentity.fromSigned, Option.ite_none_right_eq_some, Option.some.injEq] at isRoute
  obtain ⟨⟨isGid, isSession⟩, rfl⟩ := isRoute
  have key := toNat_of_pos isGid
  have number := toNat_of_pos isSession
  have gidPos : 0 < gid.toInt := Int64.lt_iff_toInt_lt.mp isGid
  have sessionPos : 0 < session.toInt := Int64.lt_iff_toInt_lt.mp isSession
  have gidLt := gid.toInt_lt
  have sessionLt := session.toInt_lt
  have some : 0 < session.toUInt64 := by
    rw [UInt64.lt_iff_toNat_lt, UInt64.toNat_zero]
    omega
  refine ⟨?_, ?_⟩
  · rw [Logic.validContextGid, if_pos ⟨by dsimp only; omega, by simpa using isGid, some⟩]
    simp
  · rw [Public.playerGid, if_pos ⟨by dsimp only; omega, by dsimp only; omega, by dsimp only; omega,
      by dsimp only; omega⟩]
    exact congrArg Option.some key

/-- The requests that `forward` sends. -/
inductive ClientRequest where
  | playerInfo
  | useItem (itemId n : Int)
  | mailList
  | mailRead (mailIds : List Int)
  | mailDelete (mailIds : List Int)
  | mailClaim (mailIds : List Int)
deriving DecidableEq, Repr

/-- The player that the service looks up for the request. -/
def ClientRequest.player (head : RpcHead) : ClientRequest → Option Int
  | .playerInfo | .useItem .. => (Logic.validContextGid head).map Int64.toInt
  | .mailList | .mailRead _ | .mailDelete _ | .mailClaim _ => Public.playerGid head

/-- A request that a Gate has sent, or that a service has carried out for `gid`. -/
structure Sent where
  conn : Int64                -- the session id of the connection that it came over
  head : RpcHead
  request : ClientRequest
deriving DecidableEq, Repr

structure Carried extends Sent where
  gid : Int
deriving DecidableEq, Repr

/-- A handler that has bound its connection. -/
structure Binding where
  handler : Nat
  record : RecordHandler             -- as it was then

structure Traffic where
  realm : Realm
  users : Int64 → Option Int64       -- the `user_id` of each connection
  calls : List Sent
  carried : List Carried
  bindings : List Binding            -- so far

namespace Traffic

def new : Traffic := ⟨.new, fun _ => none, [], [], []⟩

inductive Label where
  | realm (l : Realm.Label)
  | bindUser (i : Nat)               -- by the handler `i`
  | forward (conn : Int64) (request : ClientRequest)
  | deliver (i : Nat)
  | grant (k : Nat) (items : List Item)      -- `claim` has Logic add the attachments

section

variable (credentialHash : String → String → String) (coder : TokenCoder)

def bindUser (s : Traffic) (i : Nat) (h : RecordHandler) : Option Traffic :=
  let gid := Int64.ofInt h.gid
  let conn := Int64.ofInt h.session
  match h.phase with
  | .verified .. =>
    if gid.toInt = h.gid ∧ conn.toInt = h.session ∧ s.users conn = none then
      some { s with
        users := Function.update s.users conn (some gid)
        bindings := s.bindings ++ [⟨i, h⟩] }
    else none
  | .verifying | .done => none

/-- `claim` calls Logic with the head of its request and its gid in the body. -/
def grant (s : Traffic) (claim : Carried) (items : List Item) : Option Traffic :=
  match claim.request with
  | .mailClaim _ =>
    match Logic.ItemReq.route claim.head (.addItems (Int64.ofInt claim.gid) items) with
    | .ok gid => some { s with carried := s.carried ++ [{ claim with gid := gid.toInt }] }
    | .error _ => none
  | _ => none

def step (s : Traffic) : Label → Option Traffic
  | .realm l => (s.realm.step credentialHash coder l).map fun realm => { s with realm := realm }
  | .bindUser i => s.realm.credentials.handlers[i]?.bind (s.bindUser i)
  | .forward conn request =>
    (s.users conn).bind fun gid => (RouteIdentity.fromSigned gid conn).map fun route =>
      { s with calls := s.calls ++ [⟨conn, ⟨route.key, route.session⟩, request⟩] }
  | .deliver i =>
    s.calls[i]?.bind fun call => (call.request.player call.head).map fun gid =>
      { s with carried := s.carried ++ [⟨call, gid⟩] }
  | .grant k items => s.carried[k]?.bind (s.grant · items)

def system : System Traffic Label := .ofFun (· = new) (step credentialHash coder)

end

def Unused (s : Traffic) : Label → Prop
  | .realm l => s.realm.Unused l
  | _ => True

instance (s : Traffic) (l : Label) : Decidable (s.Unused l) := by
  unfold Unused
  split <;> infer_instance

end Traffic

/-! ## What a step leaves in the realm -/

namespace Realm

/-- What was registered, issued and asked stays. -/
structure Grows (s t : Realm) : Prop where
  registered : ∀ a ∈ s.registered, a ∈ t.registered
  logins : ∀ login ∈ s.logins, ∃ new ∈ t.logins, Auth.Login.Later login new
  handlers : ∀ (i : Nat) h, s.credentials.handlers[i]? = some h → ∃ phase,
    t.credentials.handlers[i]? = some { h with phase := phase }
  devices : ∀ (i : Nat) deviceId, s.devices[i]? = some deviceId → t.devices[i]? = some deviceId

variable {credentialHash : String → String → String} {coder : TokenCoder} {s t : Realm}

theorem Grows.refl (s : Realm) : Grows s s where
  registered _ := id
  logins login isLogin := ⟨login, isLogin, .refl login⟩
  handlers _ h found := ⟨h.phase, found⟩
  devices _ _ := id

theorem handlers_set {handlers : List RecordHandler} {i : Nat} {h : RecordHandler} {phase : Gate.RecordPhase}
    (found : handlers[i]? = some h) (j : Nat) (k : RecordHandler) (there : handlers[j]? = some k) :
    ∃ next, (handlers.set i { h with phase := phase })[j]? = some { k with phase := next } := by
  by_cases same : i = j
  · subst same
    obtain rfl := Option.some.inj (found.symm.trans there)
    exact ⟨phase, Pool.get_set_self _ found⟩
  · exact ⟨k.phase, (Pool.get_set_ne _ same).trans there⟩

theorem Grows.of_logins {logins : List Auth.Login}
    (later : ∀ login ∈ s.logins, ∃ new ∈ logins, Auth.Login.Later login new) :
    Grows s { s with logins := logins } :=
  { Grows.refl s with logins := later }

theorem Grows.of_handlers {credentials : Gate.Credentials}
    (handlers : ∀ (i : Nat) h, s.credentials.handlers[i]? = some h → ∃ phase,
      credentials.handlers[i]? = some { h with phase := phase }) :
    Grows s { s with credentials := credentials } :=
  { Grows.refl s with handlers := handlers }

theorem login_grows {permit : Bool} {request : Auth.AuthLoginReq} {allowance : Auth.Allowance}
    (taken : s.login credentialHash permit request allowance = some t) : Grows s t := by
  have appended : ∀ (added : Auth.Login), ∀ login ∈ s.logins, ∃ new ∈ s.logins ++ [added],
      Auth.Login.Later login new :=
    fun _ login isLogin => ⟨login, List.mem_append_left _ isLogin, .refl login⟩
  unfold Realm.login at taken
  split at taken
  next =>
    obtain rfl := Option.some.inj taken
    exact .of_logins (appended _)
  next =>
    obtain ⟨called, _, rfl⟩ := Option.map_eq_some_iff.mp taken
    exact { Grows.refl s with logins := appended _ }

theorem issue_grows (sound : Sound credentialHash coder s) {i : Nat} {login : Auth.Login} {now : Int}
    (found : s.logins[i]? = some login) (taken : s.issue coder i login now = some t) : Grows s t := by
  unfold Realm.issue at taken
  split at taken
  case h_2 => cases taken
  case h_1 call loading =>
    obtain ⟨c, _, taken⟩ := Option.bind_eq_some_iff.mp taken
    split at taken
    case h_2 => cases taken
    case h_1 result _ =>
      obtain rfl := Option.some.inj taken
      have unissued := ((sound.traced login (List.mem_of_getElem? found)).loading call loading).1
      apply Grows.of_logins
      rcases Auth.Login.issue_cases coder login now result with ⟨_, ended⟩ | ⟨_, _, _, _, _, _, issued⟩
      · rw [ended]
        exact later_set found ⟨rfl, rfl, rfl, fun _ => id⟩
      · rw [issued]
        exact later_set found ⟨rfl, rfl, rfl, by simp [unissued]⟩

theorem setToken_grows {i : Nat} {login : Auth.Login} {answer : Auth.Answer} (found : s.logins[i]? = some login)
    (taken : s.setToken i login answer = some t) : Grows s t := by
  have later : ∀ account token ok, ∀ old ∈ s.logins,
      ∃ new ∈ s.logins.set i (login.answer account token ok), Auth.Login.Later old new :=
    fun _ _ _ => later_set found ⟨rfl, rfl, rfl, fun _ => id⟩
  unfold Realm.setToken at taken
  split at taken
  case h_2 => cases taken
  case h_1 account gid token _ =>
    split at taken
    case h_2 =>
      obtain rfl := Option.some.inj taken
      exact .of_logins (later _ _ _)
    case h_1 saved set =>
      obtain rfl := Option.some.inj taken
      refine { Grows.refl s with logins := later _ _ _, handlers := ?_ }
      intro j h there
      refine ⟨h.phase, ?_⟩
      cases answer.applied with
      | false => exact there
      | true =>
        unfold Gate.Credentials.login at set
        split at set
        next =>
          obtain rfl := Option.some.inj set
          exact there
        next => cases set

theorem record_grows {l : Gate.Credentials.Label} {after : Gate.Credentials}
    (taken : s.credentials.step l = some after)
    (other : (∃ i p, l = .save i p) ∨ (∃ i, l = .giveUp i) ∨ (∃ gid logicId, l = .setLogicOwner gid logicId)
      ∨ ∃ gid session time, l = .clearGate gid session time) :
    Grows s { s with credentials := after } := by
  apply Grows.of_handlers
  rcases other with ⟨i, p, rfl⟩ | ⟨i, rfl⟩ | ⟨gid, logicId, rfl⟩ | ⟨gid, session, time, rfl⟩
  · obtain ⟨h, found, saved⟩ := Option.bind_eq_some_iff.mp taken
    unfold Gate.Credentials.save at saved
    split at saved
    case h_1 => split at saved <;> obtain rfl := Option.some.inj saved <;> exact handlers_set found
    case h_2 => cases saved
    case h_3 => cases saved
  · obtain ⟨h, found, rfl⟩ := Option.map_eq_some_iff.mp taken
    exact handlers_set found
  · simp only [Gate.Credentials.step] at taken
    split at taken
    next =>
      obtain rfl := Option.some.inj taken
      exact fun _ h there => ⟨h.phase, there⟩
    next => cases taken
  · obtain rfl := Option.some.inj taken
    exact fun _ h there => ⟨h.phase, there⟩

theorem step_grows (sound : Sound credentialHash coder s) {l : Label}
    (taken : s.step credentialHash coder l = some t) : Grows s t := by
  cases l with
  | login permit request allowance => exact login_grows taken
  | account name l =>
    cases l with
    | call credential => cases taken
    | tryLock | load | save | release | expire =>
      obtain ⟨after, _, rfl⟩ := Option.map_eq_some_iff.mp taken
      exact { Grows.refl s with registered := fun _ => List.mem_append_left _ }
  | issue i now =>
    obtain ⟨login, found, taken⟩ := Option.bind_eq_some_iff.mp taken
    exact issue_grows sound found taken
  | setToken i answer =>
    obtain ⟨login, found, taken⟩ := Option.bind_eq_some_iff.mp taken
    exact setToken_grows found taken
  | request gid token deviceId session reconnect =>
    simp only [Realm.step, Option.ite_none_left_eq_some] at taken
    obtain ⟨asked, asking, rfl⟩ := Option.map_eq_some_iff.mp taken.2
    simp only [Gate.Credentials.request, Option.ite_none_left_eq_some, Option.some.injEq] at asking
    obtain ⟨_, rfl⟩ := asking
    exact { Grows.refl s with
      handlers := fun _ h there => ⟨h.phase, Pool.get_append_of_some _ there⟩
      devices := fun _ _ there => Pool.get_append_of_some _ there }
  | verify i now =>
    obtain ⟨h, found, taken⟩ := Option.bind_eq_some_iff.mp taken
    obtain ⟨deviceId, _, taken⟩ := Option.bind_eq_some_iff.mp taken
    obtain ⟨verified, verifying, rfl⟩ := Option.map_eq_some_iff.mp taken
    apply Grows.of_handlers
    rcases Gate.Credentials.verify_cases verifying with rfl | ⟨_, _, rfl⟩ <;> exact handlers_set found
  | record l =>
    cases l with
    | setToken | request | verify => cases taken
    | save | giveUp | setLogicOwner =>
      obtain ⟨after, stepped, rfl⟩ := Option.map_eq_some_iff.mp taken
      exact record_grows stepped (by simp)
    | clearGate gid session time =>
      obtain rfl := Option.some.inj taken
      exact record_grows (l := .clearGate gid session time) rfl (by simp)
  | expire gid =>
    obtain rfl := Option.some.inj taken
    exact .of_handlers fun _ h there => ⟨h.phase, there⟩

/-- The handler `i`, which once was `h`, has presented a token of its player. -/
def Vouched (credentialHash : String → String → String) (s : Realm) (i : Nat) (h : RecordHandler) : Prop :=
  ∃ phase deviceId, s.credentials.handlers[i]? = some { h with phase := phase }
    ∧ s.devices[i]? = some deviceId ∧ s.Owned credentialHash h.gid h.token deviceId

/-- A handler that has verified its token has presented it. -/
theorem Sound.vouched (sound : Sound credentialHash coder s) {i : Nat} {h : RecordHandler}
    (found : s.credentials.handlers[i]? = some h) {online : Cache.OnlineData} {logins : Nat}
    (verified : h.phase = .verified online logins) :
    online.gid = h.gid ∧ online.token = h.token ∧ s.Vouched credentialHash i h := by
  have inside : i < s.devices.length := by
    rw [sound.paired]
    exact Pool.lt_length found
  have device := List.getElem?_eq_getElem inside
  obtain ⟨sameGid, sameToken, issued⟩ :=
    sound.backed.accepted h (List.mem_of_getElem? found) online logins verified
  obtain ⟨now, decoded⟩ := sound.decodes i h _ found device online logins verified
  exact ⟨sameGid, sameToken, h.phase, _, found, device, sound.owned issued decoded⟩

theorem Vouched.mono {i : Nat} {h : RecordHandler} (vouched : s.Vouched credentialHash i h) (grows : Grows s t)
    (sound : Sound credentialHash coder t) : t.Vouched credentialHash i h := by
  obtain ⟨_, deviceId, found, device, owned⟩ := vouched
  obtain ⟨a, isRegistered, hasGid, _, login, isLogin, same, hash, own, issued⟩ := owned
  obtain ⟨phase, there⟩ := grows.handlers i _ found
  obtain ⟨new, isNew, later⟩ := grows.logins login isLogin
  refine ⟨phase, deviceId, there, grows.devices i deviceId device, ?_⟩
  refine ⟨a, grows.registered a isRegistered, hasGid, ?_, new, isNew, later.account.trans same, ?_,
    later.deviceId.trans own, later.issued _ issued⟩
  · intro other isOther sameGid
    exact sound.single other isOther a (grows.registered a isRegistered) (sameGid.trans hasGid.symm)
  · rw [later.account, later.credential]
    exact hash

end Realm

namespace Traffic

variable {credentialHash : String → String → String} {coder : TokenCoder} {s t : Traffic}

/-- The head was made for this player and this connection. -/
def HeadFor (head : RpcHead) (conn gid : Int64) : Prop :=
  RouteIdentity.fromSigned gid conn = some ⟨head.gid, head.playerSession⟩

/-- The connection is bound to the player.  The handler that has bound it had
    verified its token: the record had this token for this player. -/
def Bound (credentialHash : String → String → String) (s : Traffic) (conn gid : Int64) : Prop :=
  s.users conn = some gid ∧ ∃ b ∈ s.bindings, b.record.session = conn.toInt ∧ b.record.gid = gid.toInt
    ∧ (∃ online logins, b.record.phase = .verified online logins ∧ online.gid = gid.toInt
      ∧ online.token = b.record.token)
    ∧ s.realm.Vouched credentialHash b.handler b.record

structure Sound (credentialHash : String → String → String) (coder : TokenCoder) (s : Traffic) : Prop where
  realm : s.realm.Sound credentialHash coder
  users : ∀ conn gid, s.users conn = some gid → s.Bound credentialHash conn gid
  calls : ∀ call ∈ s.calls, ∃ gid, HeadFor call.head call.conn gid ∧ s.Bound credentialHash call.conn gid
  carried : ∀ act ∈ s.carried, ∃ gid, act.gid = gid.toInt ∧ HeadFor act.head act.conn gid
    ∧ s.Bound credentialHash act.conn gid

/-- A connection stays bound. -/
theorem Sound.later (sound : Sound credentialHash coder s) (realm : t.realm.Sound credentialHash coder)
    (bound : ∀ conn gid, s.Bound credentialHash conn gid → t.Bound credentialHash conn gid)
    (users : ∀ conn gid, t.users conn = some gid → t.Bound credentialHash conn gid)
    (calls : t.calls = s.calls) (carried : t.carried = s.carried) : Sound credentialHash coder t where
  realm := realm
  users := users
  calls := by
    rw [calls]
    intro call isCall
    obtain ⟨gid, isHead, before⟩ := sound.calls call isCall
    exact ⟨gid, isHead, bound _ _ before⟩
  carried := by
    rw [carried]
    intro act isAct
    obtain ⟨gid, isGid, isHead, before⟩ := sound.carried act isAct
    exact ⟨gid, isGid, isHead, bound _ _ before⟩

theorem player_of_head {head : RpcHead} {conn gid : Int64} (isHead : HeadFor head conn gid)
    (request : ClientRequest) {player : Int} (served : request.player head = some player) :
    player = gid.toInt := by
  obtain ⟨context, route⟩ := head_gid isHead
  cases request <;> simp_all [ClientRequest.player]

theorem Sound.bindUser (sound : Sound credentialHash coder s) {i : Nat} {h : RecordHandler}
    (found : s.realm.credentials.handlers[i]? = some h) (taken : s.bindUser i h = some t) :
    Sound credentialHash coder t := by
  unfold Traffic.bindUser at taken
  dsimp only at taken
  split at taken
  next online logins verified =>
    rw [Option.ite_none_right_eq_some] at taken
    obtain ⟨⟨isGid, isConn, free⟩, taken⟩ := taken
    obtain rfl := Option.some.inj taken
    -- the connection was free, so the others keep their players
    have stays : ∀ conn gid, s.Bound credentialHash conn gid → Bound credentialHash { s with
        users := Function.update s.users (Int64.ofInt h.session) (some (Int64.ofInt h.gid))
        bindings := s.bindings ++ [⟨i, h⟩] } conn gid := by
      intro conn gid ⟨named, b, inside, known⟩
      have differ : conn ≠ Int64.ofInt h.session := by
        rintro rfl
        rw [free] at named
        cases named
      exact ⟨(Function.update_of_ne differ _ _).trans named, b, List.mem_append_left _ inside, known⟩
    refine sound.later sound.realm stays ?_ rfl rfl
    intro conn gid named
    by_cases same : conn = Int64.ofInt h.session
    · subst same
      obtain ⟨sameGid, sameToken, vouched⟩ := sound.realm.vouched found verified
      refine ⟨named, ⟨i, h⟩, List.mem_append_right _ (List.mem_singleton_self _), ?_⟩
      change Function.update s.users _ (some (Int64.ofInt h.gid)) _ = some gid at named
      rw [Function.update_self] at named
      obtain rfl := Option.some.inj named
      rw [isGid, isConn]
      exact ⟨rfl, rfl, ⟨online, logins, verified, sameGid, sameToken⟩, vouched⟩
    · have before : s.users conn = some gid := (Function.update_of_ne same _ _).symm.trans named
      exact stays conn gid (sound.users conn gid before)
  all_goals cases taken

/-- Logic takes the gid of the request, which is the one that Public had. -/
theorem Sound.grant (sound : Sound credentialHash coder s) {k : Nat} {claim : Carried} {items : List Item}
    (found : s.carried[k]? = some claim) (taken : s.grant claim items = some t) : Sound credentialHash coder t := by
  unfold Traffic.grant at taken
  split at taken
  next mailIds isClaim =>
    split at taken
    next player routed =>
      obtain rfl := Option.some.inj taken
      refine { sound with carried := ?_ }
      intro act isAct
      rcases List.mem_append.mp isAct with old | new
      · exact sound.carried act old
      · rw [List.mem_singleton.mp new]
        obtain ⟨gid, isGid, isHead, bound⟩ := sound.carried claim (List.mem_of_getElem? found)
        simp only [Logic.ItemReq.route, Logic.requestGid] at routed
        split at routed
        next => cases routed
        next =>
          obtain rfl := Except.ok.inj routed
          refine ⟨gid, ?_, isHead, bound⟩
          rw [isGid, Int64.ofInt_toInt]
    next => cases taken
  next => cases taken

theorem Sound.step (sound : Sound credentialHash coder s) {l : Label} (unused : s.Unused l)
    (taken : s.step credentialHash coder l = some t) : Sound credentialHash coder t := by
  cases l with
  | realm l =>
    obtain ⟨realm, stepped, rfl⟩ := Option.map_eq_some_iff.mp taken
    have kept := sound.realm.step unused stepped
    have grows := Realm.step_grows sound.realm stepped
    have bound : ∀ conn gid, s.Bound credentialHash conn gid →
        Bound credentialHash { s with realm := realm } conn gid := by
      intro conn gid ⟨named, b, inside, isConn, isGid, verified, vouched⟩
      exact ⟨named, b, inside, isConn, isGid, verified, vouched.mono grows kept⟩
    exact sound.later kept bound (fun conn gid named => bound conn gid (sound.users conn gid named)) rfl rfl
  | bindUser i =>
    obtain ⟨h, found, bound⟩ := Option.bind_eq_some_iff.mp taken
    exact sound.bindUser found bound
  | forward conn request =>
    obtain ⟨gid, named, taken⟩ := Option.bind_eq_some_iff.mp taken
    obtain ⟨route, isRoute, rfl⟩ := Option.map_eq_some_iff.mp taken
    refine { sound with calls := ?_ }
    intro call isCall
    rcases List.mem_append.mp isCall with old | new
    · exact sound.calls call old
    · rw [List.mem_singleton.mp new]
      exact ⟨gid, isRoute, sound.users conn gid named⟩
  | deliver i =>
    obtain ⟨call, found, taken⟩ := Option.bind_eq_some_iff.mp taken
    obtain ⟨player, served, rfl⟩ := Option.map_eq_some_iff.mp taken
    refine { sound with carried := ?_ }
    intro act isAct
    rcases List.mem_append.mp isAct with old | new
    · exact sound.carried act old
    · rw [List.mem_singleton.mp new]
      obtain ⟨gid, isHead, bound⟩ := sound.calls call (List.mem_of_getElem? found)
      exact ⟨gid, player_of_head isHead call.request served, isHead, bound⟩
  | grant k items =>
    obtain ⟨claim, found, granted⟩ := Option.bind_eq_some_iff.mp taken
    exact sound.grant found granted

end Traffic

end Xkk.Cluster
