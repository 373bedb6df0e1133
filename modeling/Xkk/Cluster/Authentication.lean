import Xkk.Auth.Admission
import Xkk.Auth.Login
import Xkk.Gate.Revocation

/-! # From the credential to the session

A client logs in at Auth with the credential of an account and gets a token; with
the token it asks Auth for a Gate, and the Gate for a session.  `Realm` puts the
three together, for all accounts, players and devices: `login` with its account
calls, the record in Redis, and the handlers at the Gates.  Each Redis and Mongo
command is one step, the account lock may expire at any moment, and so may the
record.  A client may present any token that it likes.
-/

namespace Xkk.Gate.Credentials

open Xkk.Lib Xkk.Cache

/-- Every token in Redis, and every token that a handler has accepted, was issued
    for the player.  A record may be without a token, and reads as the empty one. -/
structure Backed (issued : Int → String → Prop) (s : Credentials) : Prop where
  tokens : ∀ gid token, (s.redis gid).token = some token → token ≠ "" → issued gid token
  asked : ∀ h ∈ s.handlers, h.token ≠ ""
  accepted : ∀ h ∈ s.handlers, ∀ online logins, h.phase = .verified online logins →
    online.gid = h.gid ∧ online.token = h.token ∧ issued h.gid h.token

variable {issued more : Int → String → Prop} {s t : Credentials}

theorem Backed.mono (backed : Backed issued s) (grows : ∀ gid token, issued gid token → more gid token) :
    Backed more s where
  tokens gid token found some := grows gid token (backed.tokens gid token found some)
  asked := backed.asked
  accepted h isHandler online logins verified :=
    have accepted := backed.accepted h isHandler online logins verified
    ⟨accepted.1, accepted.2.1, grows h.gid h.token accepted.2.2⟩

/-- A command that adds no token. -/
theorem Backed.with_redis (backed : Backed issued s) {redis : Redis}
    (kept : ∀ gid token, (redis gid).token = some token → token ≠ "" → issued gid token) :
    Backed issued { s with redis := redis } :=
  ⟨kept, backed.asked, backed.accepted⟩

/-- A handler moves on. -/
theorem Backed.with_phase (backed : Backed issued s) {i : Nat} {h : RecordHandler} {phase : RecordPhase}
    (found : s.handlers[i]? = some h)
    (accepted : ∀ online logins, phase = .verified online logins →
      online.gid = h.gid ∧ online.token = h.token ∧ issued h.gid h.token) :
    Backed issued (s.setPhase i h phase) where
  tokens := backed.tokens
  asked := by
    intro k isHandler
    rcases List.mem_or_eq_of_mem_set isHandler with old | rfl
    · exact backed.asked k old
    · exact backed.asked h (List.mem_of_getElem? found)
  accepted := by
    intro k isHandler online logins verified
    rcases List.mem_or_eq_of_mem_set isHandler with old | rfl
    · exact backed.accepted k old online logins verified
    · exact accepted online logins verified

theorem Backed.login (backed : Backed issued s) {gid : Int} {account token : String} (own : issued gid token)
    (taken : s.login gid account token = some t) : Backed issued t := by
  unfold Credentials.login at taken
  cases set : setToken s.redis gid account token with
  | error error =>
    rw [set] at taken
    cases taken
  | ok redis =>
    rw [set] at taken
    obtain rfl := Option.some.inj taken
    refine ⟨?_, backed.asked, backed.accepted⟩
    intro other found isFound some
    change (redis other).token = _ at isFound
    rw [setToken_token set other] at isFound
    split at isFound
    next same =>
      obtain rfl := Option.some.inj isFound
      exact same ▸ own
    next => exact backed.tokens other found isFound some

theorem Backed.request (backed : Backed issued s) {gid : Int} {token : String} {session : SessionId}
    {reconnect : Bool} (taken : s.request gid token session reconnect = some t) : Backed issued t := by
  simp only [Credentials.request, Option.ite_none_left_eq_some, not_or, Option.some.injEq] at taken
  obtain ⟨⟨_, some⟩, rfl⟩ := taken
  refine ⟨backed.tokens, ?_, ?_⟩
  · intro h isHandler
    rcases List.mem_append.mp isHandler with old | new
    · exact backed.asked h old
    · rw [List.mem_singleton.mp new]
      intro isEmpty
      exact some (String.isEmpty_iff.mpr isEmpty)
  · intro h isHandler online logins verified
    rcases List.mem_append.mp isHandler with old | new
    · exact backed.accepted h old online logins verified
    · rw [List.mem_singleton.mp new] at verified
      cases verified

/-- A token that stands in the record was issued for the player. -/
theorem Backed.of_load (backed : Backed issued s) {gid : Int} {online : OnlineData}
    (loaded : loadOnline s.redis gid = .ok (some online)) (some : online.token ≠ "") :
    issued gid online.token := by
  have isToken := loadOnline_token loaded
  cases stored : (s.redis gid).token with
  | none => exact absurd (by simpa [stored] using isToken) some
  | some token =>
    have same : online.token = token := by simpa [stored] using isToken
    rw [same] at some ⊢
    exact backed.tokens gid token stored some

/-- What `verify_online` has looked at. -/
theorem verifyOnline_loaded {gid : Int} {token : String} {decoded : Option Int} {online : OnlineData}
    (verified : s.verifyOnline gid token decoded = some online) :
    decoded = some gid ∧ loadOnline s.redis gid = .ok (some online)
      ∧ online.gid = gid ∧ online.token = token := by
  unfold verifyOnline at verified
  split at verified
  case isFalse => cases verified
  case isTrue isGid =>
    split at verified
    case h_1 data loaded =>
      rw [Option.ite_none_right_eq_some] at verified
      obtain ⟨⟨sameGid, sameToken⟩, same⟩ := verified
      obtain rfl := Option.some.inj same
      exact ⟨isGid, loaded, sameGid, sameToken⟩
    case h_2 => cases verified
    case h_3 => cases verified

/-- A handler that goes on after `verify_online` has a token that decodes to its
    player. -/
theorem verify_cases {i : Nat} {h : RecordHandler} {decoded : Option Int}
    (taken : s.verify i h decoded = some t) :
    t = s.setPhase i h .done ∨ ∃ online, s.verifyOnline h.gid h.token decoded = some online
      ∧ t = s.setPhase i h (.verified online (s.issued h.gid).length) := by
  unfold Credentials.verify at taken
  split at taken
  case h_1 =>
    split at taken <;> obtain rfl := Option.some.inj taken
    case h_1 online verified => exact .inr ⟨online, verified, rfl⟩
    case h_2 => exact .inl rfl
  case h_2 => cases taken
  case h_3 => cases taken

theorem Backed.verify (backed : Backed issued s) {i : Nat} {h : RecordHandler} {decoded : Option Int}
    (found : s.handlers[i]? = some h) (taken : s.verify i h decoded = some t) : Backed issued t := by
  rcases verify_cases taken with rfl | ⟨online, verified, rfl⟩
  · exact backed.with_phase found (by simp)
  · obtain ⟨_, loaded, sameGid, sameToken⟩ := verifyOnline_loaded verified
    apply backed.with_phase found
    intro _ _ isVerified
    cases isVerified
    have some := backed.asked h (List.mem_of_getElem? found)
    exact ⟨sameGid, sameToken, sameToken ▸ backed.of_load loaded (sameToken ▸ some)⟩

/-- The record that is written back has the token that was accepted. -/
theorem Backed.save (backed : Backed issued s) {i : Nat} {h : RecordHandler} {p : Placement}
    (found : s.handlers[i]? = some h) (taken : s.save i h p = some t) : Backed issued t := by
  unfold Credentials.save at taken
  split at taken
  case h_1 online logins verified =>
    obtain ⟨sameGid, sameToken, own⟩ :=
      backed.accepted h (List.mem_of_getElem? found) online logins verified
    have ended : Backed issued (s.setPhase i h .done) := backed.with_phase found (by simp)
    split at taken <;> obtain rfl := Option.some.inj taken
    case h_1 redis saved =>
      apply ended.with_redis
      intro gid token isToken some
      rw [saveOnline_token saved gid] at isToken
      split at isToken
      next same =>
        obtain rfl := Option.some.inj isToken
        rw [same]
        change issued online.gid online.token
        rw [sameGid, sameToken]
        exact own
      next => exact backed.tokens gid token isToken some
    case h_2 => exact ended
  case h_2 => cases taken
  case h_3 => cases taken

end Xkk.Gate.Credentials

namespace Xkk.Cluster

open Xkk.Lib Xkk.Cache Xkk.Protocol
open Xkk.Auth (Accounts AccountData Answer Allowance AuthApi AuthLoginReq AuthUseRoleReq Login TokenCoder
  admitLogin)
open Xkk.Gate (Credentials RecordHandler SessionId)

structure Realm where
  accounts : String → Accounts
  registered : List AccountData        -- every account that a load has made up
  logins : List Login
  credentials : Credentials
  devices : List String                -- the `device_id` of the requests at the Gates

namespace Realm

def new : Realm := ⟨fun _ => ⟨none, none, []⟩, [], [], ⟨fun _ => .absent, [], []⟩, []⟩

inductive Label where
  | login (permit : Bool) (request : AuthLoginReq) (allowance : Allowance)
  | account (name : String) (l : Accounts.Label)
  | issue (i : Nat) (now : Int)
  | setToken (i : Nat) (answer : Answer)
  | request (gid : Int) (token deviceId : String) (session : SessionId) (reconnect : Bool)
  | verify (i : Nat) (now : Int)
  | record (l : Credentials.Label)     -- the other commands on the record
  | expire (gid : Int)                 -- `ONLINE_TTL_SECONDS` have passed

section

-- `xkk_common::credential_hash`
variable (credentialHash : String → String → String) (coder : TokenCoder)

def login (s : Realm) (permit : Bool) (request : AuthLoginReq) (allowance : Allowance) : Option Realm :=
  match admitLogin permit request allowance with
  | .error response =>
    some { s with logins := s.logins ++
      [⟨request.account, request.credential, request.deviceId.getD "", .answered response, none⟩] }
  | .ok deviceId =>
    let name := request.account
    ((s.accounts name).step credentialHash name (.call request.credential)).map fun called =>
      { s with
        accounts := Function.update s.accounts name called
        logins := s.logins ++
          [⟨name, request.credential, deviceId, .loading (s.accounts name).calls.length, none⟩] }

def issue (s : Realm) (i : Nat) (login : Login) (now : Int) : Option Realm :=
  match login.phase with
  | .loading call => ((s.accounts login.account).calls[call]?).bind fun c => match c.phase with
    | .returned result => some { s with logins := s.logins.set i (login.issue coder now result) }
    | _ => none
  | _ => none

/-- `set_token` refuses a player id that is not positive. -/
def setToken (s : Realm) (i : Nat) (login : Login) (answer : Answer) : Option Realm :=
  match login.phase with
  | .saving account gid token =>
    match s.credentials.login gid account.account token with
    | some saved => some { s with
        credentials := if answer.applied then saved else s.credentials
        logins := s.logins.set i (login.answer account token (answer = .ok)) }
    | none => some { s with logins := s.logins.set i (login.answer account token false) }
  | _ => none

def step (s : Realm) : Label → Option Realm
  | .login permit request allowance => s.login credentialHash permit request allowance
  | .account name l => match l with
    | .call _ => none
    | l => ((s.accounts name).step credentialHash name l).map fun after =>
      { s with
        accounts := Function.update s.accounts name after
        registered := s.registered ++ after.madeUp l }
  | .issue i now => s.logins[i]?.bind (s.issue coder i · now)
  | .setToken i answer => s.logins[i]?.bind (s.setToken i · answer)
  | .request gid token deviceId session reconnect =>
    if deviceId.utf8ByteSize < 8 then none
    else (s.credentials.request gid token session reconnect).map fun asked =>
      { s with credentials := asked, devices := s.devices ++ [deviceId] }
  | .verify i now =>
    s.credentials.handlers[i]?.bind fun h => s.devices[i]?.bind fun deviceId =>
      (s.credentials.verify i h (coder.simpleTokenDecode h.token deviceId now)).map fun verified =>
        { s with credentials := verified }
  | .record l => match l with
    | .setToken .. | .request .. | .verify .. => none
    | l => (s.credentials.step l).map fun after => { s with credentials := after }
  | .expire gid =>
    some { s with credentials := { s.credentials with
      redis := Function.update s.credentials.redis gid .absent } }

def system : System Realm Label := .ofFun (· = new) (step credentialHash coder)

end

/-- `gen_int64_id` never generates a player id twice. -/
def Unused (s : Realm) : Label → Prop
  | .account _ (.load _ _ gid _) => ∀ a ∈ s.registered, a.roleGid ≠ some gid
  | _ => True

instance (s : Realm) (l : Label) : Decidable (s.Unused l) := by
  unfold Unused
  split <;> infer_instance

/-! ## Whose token it is -/

variable {credentialHash : String → String → String} {coder : TokenCoder} {s t : Realm}

def Issued (s : Realm) (gid : Int) (token : String) : Prop :=
  ∃ login ∈ s.logins, login.issued = some (gid, token)

/-- One account only was made with this player id, and the token was issued to a
    client that had presented the credential that the account was made with, for
    this device. -/
def Owned (credentialHash : String → String → String) (s : Realm) (gid : Int) (token deviceId : String) :
    Prop :=
  ∃ a ∈ s.registered, a.roleGid = some gid ∧ (∀ other ∈ s.registered, other.roleGid = some gid → other = a)
    ∧ ∃ login ∈ s.logins, login.account = a.account
      ∧ credentialHash login.account login.credential = a.credentialHash
      ∧ login.deviceId = deviceId ∧ login.issued = some (gid, token)

/-- What is known of a login. -/
structure Traced (credentialHash : String → String → String) (coder : TokenCoder) (s : Realm) (login : Login) :
    Prop where
  loading : ∀ call, login.phase = .loading call → login.issued = none
    ∧ ∃ c, (s.accounts login.account).calls[call]? = some c ∧ c.credential = login.credential
  saving : ∀ account gid token, login.phase = .saving account gid token → login.issued = some (gid, token)
  account : ∀ gid token, login.issued = some (gid, token) → ∃ a ∈ s.registered, a.roleGid = some gid
    ∧ a.account = login.account ∧ a.credentialHash = credentialHash login.account login.credential
  encoded : ∀ gid token, login.issued = some (gid, token) →
    ∃ now, coder.simpleTokenEncode gid login.deviceId now = some token

/-- The token of a handler that has verified it decodes for the device that came
    with it. -/
def Decodes (coder : TokenCoder) (handlers : List RecordHandler) (devices : List String) : Prop :=
  ∀ (i : Nat) h deviceId, handlers[i]? = some h → devices[i]? = some deviceId →
    ∀ online logins, h.phase = .verified online logins →
      ∃ now, coder.simpleTokenDecode h.token deviceId now = some h.gid

structure Sound (credentialHash : String → String → String) (coder : TokenCoder) (s : Realm) : Prop where
  accounts : ∀ name, (s.accounts name).Honest credentialHash name s.registered
  single : ∀ a ∈ s.registered, ∀ b ∈ s.registered, a.roleGid = b.roleGid → a = b
  traced : ∀ login ∈ s.logins, s.Traced credentialHash coder login
  backed : s.credentials.Backed s.Issued
  paired : s.devices.length = s.credentials.handlers.length
  decodes : Decodes coder s.credentials.handlers s.devices

theorem Decodes.set {handlers : List RecordHandler} {devices : List String}
    (decodes : Decodes coder handlers devices) {i : Nat} {h : RecordHandler} (phase : Gate.RecordPhase)
    (own : ∀ deviceId, devices[i]? = some deviceId → ∀ online logins, phase = .verified online logins →
      ∃ now, coder.simpleTokenDecode h.token deviceId now = some h.gid) :
    Decodes coder (handlers.set i { h with phase := phase }) devices := by
  intro j k deviceId found device online logins verified
  rcases Pool.get_set_cases found with ⟨rfl, rfl⟩ | ⟨_, there⟩
  · exact own deviceId device online logins verified
  · exact decodes j k deviceId there device online logins verified

theorem issued_mono (later : ∀ login ∈ s.logins, ∃ new ∈ t.logins, Login.Later login new)
    (gid : Int) (token : String) (issued : s.Issued gid token) : t.Issued gid token := by
  obtain ⟨login, isLogin, isIssued⟩ := issued
  obtain ⟨new, isNew, kept⟩ := later login isLogin
  exact ⟨new, isNew, kept.issued _ isIssued⟩

theorem later_set {logins : List Login} {i : Nat} {login new : Login} (found : logins[i]? = some login)
    (later : Login.Later login new) : ∀ old ∈ logins, ∃ next ∈ logins.set i new, Login.Later old next := by
  intro old isOld
  obtain ⟨j, there⟩ := List.mem_iff_getElem?.mp isOld
  by_cases same : i = j
  · subst same
    obtain rfl := Option.some.inj (found.symm.trans there)
    exact ⟨new, List.mem_of_getElem? (Pool.get_set_self new found), later⟩
  · exact ⟨old, List.mem_of_getElem? ((Pool.get_set_ne new same).trans there), .refl old⟩

/-- What is known of a login stays known. -/
theorem Traced.mono {login : Login} (traced : s.Traced credentialHash coder login)
    (grows : ∀ a ∈ s.registered, a ∈ t.registered)
    (calls : ∀ (i : Nat) c, (s.accounts login.account).calls[i]? = some c →
      ∃ d, (t.accounts login.account).calls[i]? = some d ∧ d.credential = c.credential) :
    t.Traced credentialHash coder login where
  loading := by
    intro call loading
    obtain ⟨unissued, c, found, own⟩ := traced.loading call loading
    obtain ⟨d, there, same⟩ := calls call c found
    exact ⟨unissued, d, there, same.trans own⟩
  saving := traced.saving
  account := by
    intro gid token issued
    obtain ⟨a, isRegistered, known⟩ := traced.account gid token issued
    exact ⟨a, grows a isRegistered, known⟩
  encoded := traced.encoded

/-- One account call takes a step. -/
theorem calls_update {name : String} {after : Accounts} {l : Accounts.Label}
    (taken : (s.accounts name).step credentialHash name l = some after) (other : String) (i : Nat)
    (c : Auth.Call) (found : (s.accounts other).calls[i]? = some c) :
    ∃ d, (Function.update s.accounts name after other).calls[i]? = some d ∧ d.credential = c.credential := by
  by_cases same : other = name
  · subst same
    rw [Function.update_self]
    exact Accounts.credential_step taken found
  · rw [Function.update_of_ne same]
    exact ⟨c, found, rfl⟩

theorem sound_new : Sound credentialHash coder new where
  accounts name := ⟨by simp [new], by simp [new]⟩
  single := by simp [new]
  traced := by simp [new]
  backed := ⟨by simp [new, GamerHash.absent], by simp [new], by simp [new]⟩
  paired := rfl
  decodes := by
    intro i h deviceId found
    simp [new] at found

/-- A login moves on, without a word to Redis. -/
theorem Sound.set_login (sound : Sound credentialHash coder s) {i : Nat} {login next : Login}
    (found : s.logins[i]? = some login) (later : Login.Later login next)
    (traced : s.Traced credentialHash coder next) :
    Sound credentialHash coder { s with logins := s.logins.set i next } where
  accounts := sound.accounts
  single := sound.single
  traced := by
    intro other isLogin
    rcases List.mem_or_eq_of_mem_set isLogin with old | rfl
    · exact (sound.traced other old).mono (fun _ => id) fun _ c found => ⟨c, found, rfl⟩
    · exact traced.mono (fun _ => id) fun _ c found => ⟨c, found, rfl⟩
  backed := sound.backed.mono (issued_mono (later_set found later))
  paired := sound.paired
  decodes := sound.decodes

/-- The record or the handlers change. -/
theorem Sound.with_credentials (sound : Sound credentialHash coder s) {credentials : Credentials}
    {devices : List String} (backed : credentials.Backed s.Issued)
    (paired : devices.length = credentials.handlers.length)
    (decodes : Decodes coder credentials.handlers devices) :
    Sound credentialHash coder { s with credentials := credentials, devices := devices } where
  accounts := sound.accounts
  single := sound.single
  traced login isLogin := (sound.traced login isLogin).mono (fun _ => id) fun _ c found => ⟨c, found, rfl⟩
  backed := backed
  paired := paired
  decodes := decodes

theorem Sound.login (sound : Sound credentialHash coder s) {permit : Bool} {request : AuthLoginReq}
    {allowance : Allowance} (taken : s.login credentialHash permit request allowance = some t) :
    Sound credentialHash coder t := by
  unfold Realm.login at taken
  split at taken
  next response refused =>
    obtain rfl := Option.some.inj taken
    refine { sound with traced := ?_, backed := ?_ }
    · intro login isLogin
      rcases List.mem_append.mp isLogin with old | new
      · exact (sound.traced login old).mono (fun _ => id) fun _ c found => ⟨c, found, rfl⟩
      · rw [List.mem_singleton.mp new]
        constructor <;> simp
    · refine sound.backed.mono (issued_mono fun login isLogin => ?_)
      exact ⟨login, List.mem_append_left _ isLogin, .refl login⟩
  next deviceId admitted =>
    obtain ⟨called, calling, rfl⟩ := Option.map_eq_some_iff.mp taken
    refine { sound with accounts := ?_, traced := ?_, backed := ?_ }
    · intro name
      have called' := (sound.accounts request.account).step calling
      by_cases same : name = request.account
      · subst same
        simpa [Accounts.madeUp] using called'
      · simpa [Function.update_of_ne same] using sound.accounts name
    · intro login isLogin
      rcases List.mem_append.mp isLogin with old | new
      · exact (sound.traced login old).mono (fun _ => id) (calls_update calling login.account)
      · obtain rfl := Option.some.inj calling
        rw [List.mem_singleton.mp new]
        constructor
        · intro call loading
          cases loading
          refine ⟨rfl, ⟨request.credential, .locking⟩, ?_, rfl⟩
          simp
        · simp
        · simp
        · simp
    · refine sound.backed.mono (issued_mono fun login isLogin => ?_)
      exact ⟨login, List.mem_append_left _ isLogin, .refl login⟩

/-- An account call; a load that finds nothing makes up an account with a player id
    that no other account has. -/
theorem Sound.account (sound : Sound credentialHash coder s) {name : String} {l : Accounts.Label}
    {after : Accounts} (unused : s.Unused (.account name l))
    (taken : (s.accounts name).step credentialHash name l = some after) :
    Sound credentialHash coder { s with
      accounts := Function.update s.accounts name after, registered := s.registered ++ after.madeUp l } := by
  refine { sound with accounts := ?_, single := ?_, traced := ?_ }
  · intro other
    by_cases same : other = name
    · subst same
      simpa using (sound.accounts other).step taken
    · have kept : (s.accounts other).Honest credentialHash other (s.registered ++ after.madeUp l) :=
        (sound.accounts other).mono fun _ => List.mem_append_left _
      simpa [Function.update_of_ne same] using kept
  · have apart : ∀ a ∈ s.registered, ∀ b ∈ after.madeUp l, a.roleGid ≠ b.roleGid := by
      intro a isOld b isNew
      obtain ⟨i, answer, gid, createdAt, rfl, isGid, _⟩ := Accounts.madeUp_roleGid taken isNew
      rw [isGid]
      exact unused a isOld
    intro a isA b isB same
    rcases List.mem_append.mp isA with oldA | newA <;> rcases List.mem_append.mp isB with oldB | newB
    · exact sound.single a oldA b oldB same
    · exact absurd same (apart a oldA b newB)
    · exact absurd same.symm (apart b oldB a newA)
    · obtain ⟨_, _, _, _, _, _, only⟩ := Accounts.madeUp_roleGid taken newA
      rw [only] at newB
      exact (List.mem_singleton.mp newB).symm
  · intro login isLogin
    exact (sound.traced login isLogin).mono (fun _ => List.mem_append_left _) (calls_update taken login.account)

theorem Sound.issue (sound : Sound credentialHash coder s) {i : Nat} {login : Login} {now : Int}
    (found : s.logins[i]? = some login) (taken : s.issue coder i login now = some t) :
    Sound credentialHash coder t := by
  unfold Realm.issue at taken
  split at taken
  case h_2 => cases taken
  case h_1 call loading =>
    obtain ⟨c, isCall, taken⟩ := Option.bind_eq_some_iff.mp taken
    split at taken
    case h_2 => cases taken
    case h_1 result returned =>
      obtain rfl := Option.some.inj taken
      have traced := sound.traced login (List.mem_of_getElem? found)
      obtain ⟨unissued, d, isOwn, own⟩ := traced.loading call loading
      obtain rfl := Option.some.inj (isCall.symm.trans isOwn)
      rcases Login.issue_cases coder login now result with
        ⟨response, ended⟩ | ⟨a, gid, token, rfl, isGid, encoded, issued⟩
      · rw [ended]
        refine sound.set_login found ⟨rfl, rfl, rfl, fun _ => id⟩ ⟨?_, ?_, traced.account, traced.encoded⟩
        · simp
        · simp
      · rw [issued]
        -- the call has compared the hashes, or has made the account up
        obtain ⟨isRegistered, sameAccount, sameHash⟩ :=
          (sound.accounts login.account).known call c isCall a
            (by simp [returned, Accounts.known, Auth.CallPhase.result])
        refine sound.set_login found ⟨rfl, rfl, rfl, by simp [unissued]⟩ ⟨?_, ?_, ?_, ?_⟩
        · simp
        · intro account gid token saving
          cases saving
          rfl
        · intro gid token isIssued
          cases isIssued
          exact ⟨a, isRegistered, isGid, sameAccount, own ▸ sameHash⟩
        · intro gid token isIssued
          cases isIssued
          exact ⟨now, encoded⟩

theorem Sound.setToken (sound : Sound credentialHash coder s) {i : Nat} {login : Login} {answer : Answer}
    (found : s.logins[i]? = some login) (taken : s.setToken i login answer = some t) :
    Sound credentialHash coder t := by
  have traced := sound.traced login (List.mem_of_getElem? found)
  unfold Realm.setToken at taken
  split at taken
  case h_2 => cases taken
  case h_1 account gid token saving =>
    have isIssued := traced.saving account gid token saving
    have moved : ∀ ok, Sound credentialHash coder
        { s with logins := s.logins.set i (login.answer account token ok) } :=
      fun ok => sound.set_login found ⟨rfl, rfl, rfl, fun _ => id⟩
        ⟨by simp [Login.answer], by simp [Login.answer], traced.account, traced.encoded⟩
    split at taken
    case h_2 =>
      obtain rfl := Option.some.inj taken
      exact moved false
    case h_1 saved set =>
      obtain rfl := Option.some.inj taken
      cases applied : answer.applied with
      | false => simpa [applied] using moved _
      | true =>
        have later : Login.Later login (login.answer account token (answer = .ok)) :=
          ⟨rfl, rfl, rfl, fun _ => id⟩
        have own : s.Issued gid token := ⟨login, List.mem_of_getElem? found, isIssued⟩
        have same : saved.handlers = s.credentials.handlers := by
          unfold Credentials.login at set
          split at set
          next =>
            obtain rfl := Option.some.inj set
            rfl
          next => cases set
        rw [if_pos rfl]
        refine (moved (answer = .ok)).with_credentials ?_ ?_ ?_
        · exact (sound.backed.login own set).mono (issued_mono (later_set found later))
        · rw [same]
          exact sound.paired
        · rw [same]
          exact sound.decodes

theorem Sound.request (sound : Sound credentialHash coder s) {gid : Int} {token : String} {session : SessionId}
    {reconnect : Bool} {asked : Credentials} (deviceId : String)
    (taken : s.credentials.request gid token session reconnect = some asked) :
    Sound credentialHash coder { s with credentials := asked, devices := s.devices ++ [deviceId] } := by
  refine sound.with_credentials (sound.backed.request taken) ?_ ?_
  all_goals
    simp only [Credentials.request, Option.ite_none_left_eq_some, Option.some.injEq] at taken
    obtain ⟨_, rfl⟩ := taken
  · simp [sound.paired]
  · intro i h other found device online logins verified
    rcases Pool.get_append_cases found with ⟨_, rfl⟩ | ⟨inside, there⟩
    · cases verified
    · rw [← sound.paired] at inside
      rw [List.getElem?_append_left inside] at device
      exact sound.decodes i h other there device online logins verified

theorem Sound.verify (sound : Sound credentialHash coder s) {i : Nat} {h : RecordHandler} {deviceId : String}
    {now : Int} {verified : Credentials} (found : s.credentials.handlers[i]? = some h)
    (device : s.devices[i]? = some deviceId)
    (taken : s.credentials.verify i h (coder.simpleTokenDecode h.token deviceId now) = some verified) :
    Sound credentialHash coder { s with credentials := verified } := by
  refine sound.with_credentials (sound.backed.verify found taken) ?_ ?_
  · rcases Credentials.verify_cases taken with rfl | ⟨_, _, rfl⟩ <;> simp [Credentials.setPhase, sound.paired]
  · rcases Credentials.verify_cases taken with rfl | ⟨online, accepted, rfl⟩
    · exact sound.decodes.set .done (by simp)
    · apply sound.decodes.set
      intro other isDevice _ _ _
      obtain rfl := Option.some.inj (device.symm.trans isDevice)
      exact ⟨now, (Credentials.verifyOnline_loaded accepted).1⟩

/-- The other commands: a save by a handler, its end, a new owner, a cleared Gate. -/
theorem Sound.record (sound : Sound credentialHash coder s) {l : Credentials.Label} {after : Credentials}
    (taken : s.credentials.step l = some after)
    (other : (∃ i p, l = .save i p) ∨ (∃ i, l = .giveUp i) ∨ (∃ gid logicId, l = .setLogicOwner gid logicId)
      ∨ ∃ gid session time, l = .clearGate gid session time) :
    Sound credentialHash coder { s with credentials := after } := by
  have kept : ∀ redis : Redis, (∀ gid, (redis gid).token = (s.credentials.redis gid).token) →
      ({ s.credentials with redis := redis }).Backed s.Issued := by
    intro redis same
    refine sound.backed.with_redis fun gid token isToken => ?_
    rw [same] at isToken
    exact sound.backed.tokens gid token isToken
  rcases other with ⟨i, p, rfl⟩ | ⟨i, rfl⟩ | ⟨gid, logicId, rfl⟩ | ⟨gid, session, time, rfl⟩
  · obtain ⟨h, found, saved⟩ := Option.bind_eq_some_iff.mp taken
    have handlers : after.handlers = s.credentials.handlers.set i { h with phase := .done } := by
      unfold Credentials.save at saved
      split at saved
      case h_1 => split at saved <;> obtain rfl := Option.some.inj saved <;> rfl
      case h_2 => cases saved
      case h_3 => cases saved
    refine sound.with_credentials (sound.backed.save found saved) ?_ ?_
    · rw [handlers, List.length_set]
      exact sound.paired
    · rw [handlers]
      exact sound.decodes.set .done (by simp)
  · obtain ⟨h, found, rfl⟩ := Option.map_eq_some_iff.mp taken
    have backed : (s.credentials.setPhase i h .done).Backed s.Issued := sound.backed.with_phase found (by simp)
    refine sound.with_credentials backed ?_ (sound.decodes.set .done (by simp))
    simp [Credentials.setPhase, sound.paired]
  · simp only [Credentials.step] at taken
    split at taken
    next redis set =>
      obtain rfl := Option.some.inj taken
      exact sound.with_credentials (kept redis (setLogicOwner_token set)) sound.paired sound.decodes
    next => cases taken
  · obtain rfl := Option.some.inj taken
    exact sound.with_credentials (kept _ (clearGateBySession_token _ _ _ _)) sound.paired sound.decodes

theorem Sound.step (sound : Sound credentialHash coder s) {l : Label} (unused : s.Unused l)
    (taken : s.step credentialHash coder l = some t) : Sound credentialHash coder t := by
  cases l with
  | login permit request allowance => exact sound.login taken
  | account name l =>
    cases l with
    | call credential => cases taken
    | tryLock | load | save | release | expire =>
      obtain ⟨after, stepped, rfl⟩ := Option.map_eq_some_iff.mp taken
      exact sound.account unused stepped
  | issue i now =>
    obtain ⟨login, found, taken⟩ := Option.bind_eq_some_iff.mp taken
    exact sound.issue found taken
  | setToken i answer =>
    obtain ⟨login, found, taken⟩ := Option.bind_eq_some_iff.mp taken
    exact sound.setToken found taken
  | request gid token deviceId session reconnect =>
    simp only [Realm.step, Option.ite_none_left_eq_some] at taken
    obtain ⟨asked, asking, rfl⟩ := Option.map_eq_some_iff.mp taken.2
    exact sound.request deviceId asking
  | verify i now =>
    obtain ⟨h, found, taken⟩ := Option.bind_eq_some_iff.mp taken
    obtain ⟨deviceId, device, taken⟩ := Option.bind_eq_some_iff.mp taken
    obtain ⟨verified, verifying, rfl⟩ := Option.map_eq_some_iff.mp taken
    exact sound.verify found device verifying
  | record l =>
    cases l with
    | setToken | request | verify => cases taken
    | save | giveUp | setLogicOwner =>
      obtain ⟨after, stepped, rfl⟩ := Option.map_eq_some_iff.mp taken
      exact sound.record stepped (by simp)
    | clearGate gid session time =>
      obtain rfl := Option.some.inj taken
      exact sound.record (l := .clearGate gid session time) rfl (by simp)
  | expire gid =>
    obtain rfl := Option.some.inj taken
    refine sound.with_credentials (sound.backed.with_redis ?_) sound.paired sound.decodes
    intro other token isToken
    by_cases same : other = gid
    · rw [same, Function.update_self] at isToken
      cases isToken
    · rw [Function.update_of_ne same] at isToken
      exact sound.backed.tokens other token isToken

theorem sound_reach (reached : (system credentialHash coder).Reach Unused s) :
    Sound credentialHash coder s := by
  refine reached.inv ?_ (fun s l t sound unused taken => sound.step unused taken)
  rintro s rfl
  exact sound_new

/-- A token that was issued for the player, and that decodes to the player on the
    device, was issued to the owner. -/
theorem Sound.owned (sound : Sound credentialHash coder s) {gid decoded now : Int} {token deviceId : String}
    (issued : s.Issued gid token) (decodes : coder.simpleTokenDecode token deviceId now = some decoded) :
    s.Owned credentialHash gid token deviceId := by
  obtain ⟨login, isLogin, isIssued⟩ := issued
  have traced := sound.traced login isLogin
  obtain ⟨a, isRegistered, isGid, sameAccount, sameHash⟩ := traced.account gid token isIssued
  obtain ⟨_, encoded⟩ := traced.encoded gid token isIssued
  refine ⟨a, isRegistered, isGid, ?_, login, isLogin, sameAccount.symm, sameHash.symm, ?_, isIssued⟩
  · intro other isOther same
    exact sound.single other isOther a isRegistered (same.trans isGid.symm)
  · exact (coder.bound encoded decodes).2.symm

/-- One player on one device, and tokens that last an hour. -/
def hourly : TokenCoder where
  simpleTokenEncode gid deviceId now :=
    if gid = 71 ∧ deviceId = "device-1" ∧ now = 1000 then some "71.device-1" else none
  simpleTokenDecode token deviceId now :=
    if token = "71.device-1" ∧ deviceId = "device-1" ∧ now < 4600 then some 71 else none
  bound := by
    intro gid decoded issued now token deviceId other encodes decodes
    simp only [Option.ite_none_right_eq_some, Option.some.injEq] at encodes decodes
    obtain ⟨⟨isGid, isDevice, _⟩, _⟩ := encodes
    obtain ⟨⟨_, isOther, _⟩, isDecoded⟩ := decodes
    exact ⟨isDecoded.symm.trans isGid.symm, isOther.trans isDevice.symm⟩

end Realm

end Xkk.Cluster
