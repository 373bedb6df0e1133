import Xkk.Cache.Online
import Xkk.Gate.Session
import Xkk.Lib.Pool
import Xkk.Lib.Transition

/-! # Revoking a token

Auth replaces the token of a player with `set_token`; a token that is no longer
in the record is revoked.  `handle_login` and `handle_reconnect` read the whole
record, wait for Logic and write the whole record back, token included.

`Credentials` runs any number of logins at Auth and of handlers at the Gates,
for all players, with each Redis command as one step.
-/

namespace Xkk.Gate

open Xkk.Lib Xkk.Cache

inductive RecordPhase where
  | verifying
  -- the record as it was loaded, and how many tokens its player had got by then
  | verified (online : OnlineData) (logins : Nat)
  | done
deriving DecidableEq, Repr

/-- How many tokens the player had got when the handler loaded the record. -/
def RecordPhase.logins : RecordPhase → Option Nat
  | .verified _ logins => some logins
  | .verifying | .done => none

/-- `handle_login` or `handle_reconnect`. -/
structure RecordHandler where
  gid : Int
  token : String
  session : SessionId
  reconnect : Bool
  phase : RecordPhase
deriving DecidableEq, Repr

structure Credentials where
  redis : Redis
  handlers : List RecordHandler
  logins : List (Int × String)       -- the tokens that `set_token` has set, oldest first

/-- What the handler learns between the two commands. -/
structure Placement where
  loginTime : Int
  publicId : Int
  gateId : Int
  logicId : Int
deriving DecidableEq, Repr

/-- The record that the handler writes back; a reconnect keeps its Logic. -/
def RecordHandler.placed (h : RecordHandler) (online : OnlineData) (p : Placement) : OnlineData :=
  { online with
    session := h.session
    loginTime := p.loginTime
    logoutTime := 0
    publicId := p.publicId
    gateId := p.gateId
    logicId := if h.reconnect then online.logicId else p.logicId }

namespace Credentials

/-- The tokens of one player, oldest first. -/
def issued (s : Credentials) (gid : Int) : List String := (s.logins.filter (·.1 = gid)).map (·.2)

def setPhase (s : Credentials) (i : Nat) (h : RecordHandler) (phase : RecordPhase) : Credentials :=
  { s with handlers := s.handlers.set i { h with phase := phase } }

def login (s : Credentials) (gid : Int) (account token : String) : Option Credentials :=
  match setToken s.redis gid account token with
  | .ok redis => some { s with redis := redis, logins := s.logins ++ [(gid, token)] }
  | .error _ => none

/-- A request that passed the checks of its form. -/
def request (s : Credentials) (gid : Int) (token : String) (session : SessionId) (reconnect : Bool) :
    Option Credentials :=
  if gid ≤ 0 ∨ token.isEmpty then none
  else some { s with handlers := s.handlers ++ [⟨gid, token, session, reconnect, .verifying⟩] }

/-- `verify_online`; `decoded` is the gid that `simple_token_decode` finds. -/
def verifyOnline (s : Credentials) (gid : Int) (token : String) (decoded : Option Int) : Option OnlineData :=
  if decoded = some gid then
    match loadOnline s.redis gid with
    | .ok (some online) => if online.gid = gid ∧ online.token = token then some online else none
    | .ok none | .error _ => none
  else none

def verify (s : Credentials) (i : Nat) (h : RecordHandler) (decoded : Option Int) : Option Credentials :=
  match h.phase with
  | .verifying =>
    match s.verifyOnline h.gid h.token decoded with
    | some online => some (s.setPhase i h (.verified online (s.issued h.gid).length))
    | none => some (s.setPhase i h .done)
  | .verified .. | .done => none

def save (s : Credentials) (i : Nat) (h : RecordHandler) (p : Placement) : Option Credentials :=
  match h.phase with
  | .verified online _ =>
    match saveOnline s.redis (h.placed online p) with
    | .ok redis => some { s.setPhase i h .done with redis := redis }
    | .error _ => some (s.setPhase i h .done)
  | .verifying | .done => none

inductive Label where
  | setToken (gid : Int) (account token : String)
  | request (gid : Int) (token : String) (session : SessionId) (reconnect : Bool)
  | verify (i : Nat) (decoded : Option Int)
  | save (i : Nat) (p : Placement)
  -- every other way out: a Redis error, no Logic, a refused login, a closed connection
  | giveUp (i : Nat)
  | setLogicOwner (gid logicId : Int)
  | clearGate (gid session logoutTime : Int)
deriving DecidableEq, Repr

def step (s : Credentials) : Label → Option Credentials
  | .setToken gid account token => s.login gid account token
  | .request gid token session reconnect => s.request gid token session reconnect
  | .verify i decoded => s.handlers[i]?.bind (s.verify i · decoded)
  | .save i p => s.handlers[i]?.bind (s.save i · p)
  | .giveUp i => s.handlers[i]?.map (s.setPhase i · .done)
  | .setLogicOwner gid logicId =>
    match setLogicOwner s.redis gid logicId with
    | .ok redis => some { s with redis := redis }
    | .error _ => none
  | .clearGate gid session logoutTime =>
    some { s with redis := (clearGateBySession s.redis gid session logoutTime).1 }

def system : System Credentials Label := .ofFun (fun s => ∃ redis, s = ⟨redis, [], []⟩) step

/-- The record holds the token that was issued last. -/
def Current (s : Credentials) (gid : Int) : Prop :=
  ∀ token, (s.issued gid).getLast? = some token → (s.redis gid).token = some token

/-- A handler saves only a record that it has loaded after the last login of its
    player. -/
def Undisturbed (s : Credentials) : Label → Prop
  | .save i _ => ∀ h ∈ s.handlers[i]?, ∀ logins ∈ h.phase.logins, (s.issued h.gid).length = logins
  | _ => True

instance (s : Credentials) (l : Label) : Decidable (s.Undisturbed l) :=
  match l with
  | .save i _ => inferInstanceAs (Decidable (∀ h ∈ s.handlers[i]?, ∀ logins ∈ h.phase.logins, _ = _))
  | .setToken .. | .request .. | .verify .. | .giveUp _ | .setLogicOwner .. | .clearGate .. => .isTrue trivial

/-! ## The last token stays -/

/-- What a handler that has verified its record may rely on. -/
structure Loaded (s : Credentials) (h : RecordHandler) (online : OnlineData) (logins : Nat) : Prop where
  gid : online.gid = h.gid
  le : logins ≤ (s.issued h.gid).length
  token : (s.issued h.gid).length = logins →
    ∀ token, (s.issued h.gid).getLast? = some token → online.token = token

structure Valid (s : Credentials) : Prop where
  current : ∀ gid, s.Current gid
  loaded : ∀ h ∈ s.handlers, ∀ online logins, h.phase = .verified online logins → s.Loaded h online logins

variable {s t : Credentials}

theorem issued_login (s : Credentials) (redis : Redis) (target : Int) (token : String) (gid : Int) :
    issued { s with redis := redis, logins := s.logins ++ [(target, token)] } gid =
      if gid = target then s.issued gid ++ [token] else s.issued gid := by
  by_cases same : gid = target
  · simp [issued, same]
  · simp [issued, same, Ne.symm same]

/-- A handler moves on. -/
theorem Valid.with_phase (valid : Valid s) (i : Nat) (h : RecordHandler) (phase : RecordPhase)
    (loaded : ∀ online logins, phase = .verified online logins → s.Loaded h online logins) :
    Valid (s.setPhase i h phase) := by
  refine ⟨valid.current, ?_⟩
  intro k isHandler online logins isVerified
  rcases List.mem_or_eq_of_mem_set isHandler with old | rfl
  · exact { valid.loaded k old online logins isVerified with }
  · exact { loaded online logins isVerified with }

/-- A command that leaves every token alone. -/
theorem Valid.with_redis (valid : Valid s) {redis : Redis}
    (same : ∀ gid, (redis gid).token = (s.redis gid).token) : Valid { s with redis := redis } := by
  constructor
  · intro gid token last
    exact (same gid).trans (valid.current gid token last)
  · intro h isHandler online logins isVerified
    exact { valid.loaded h isHandler online logins isVerified with }

theorem Valid.login (valid : Valid s) {gid : Int} {account token : String}
    (taken : s.login gid account token = some t) : Valid t := by
  unfold Credentials.login at taken
  cases set : setToken s.redis gid account token with
  | error error =>
    rw [set] at taken
    cases taken
  | ok redis =>
    rw [set] at taken
    obtain rfl := Option.some.inj taken
    constructor
    · intro other last isLast
      rw [issued_login] at isLast
      rw [setToken_token set other]
      by_cases same : other = gid
      · rw [if_pos same] at isLast ⊢
        simpa using isLast
      · rw [if_neg same] at isLast ⊢
        exact valid.current other last isLast
    · intro h isHandler online logins isVerified
      have loaded := valid.loaded h isHandler online logins isVerified
      have le := loaded.le
      refine ⟨loaded.gid, ?_, ?_⟩
      · rw [issued_login]
        split
        · rw [List.length_append]
          omega
        · exact le
      · rw [issued_login]
        by_cases same : h.gid = gid
        · -- the handler has missed this login
          rw [if_pos same, List.length_append, List.length_singleton]
          intro noneMissed
          omega
        · rw [if_neg same]
          exact loaded.token

theorem verifyOnline_some {gid : Int} {token : String} {decoded : Option Int} {online : OnlineData}
    (verified : s.verifyOnline gid token decoded = some online) :
    online.gid = gid ∧ online.token = (s.redis gid).token.getD "" := by
  unfold verifyOnline at verified
  split at verified
  case isFalse => cases verified
  case isTrue =>
    split at verified
    case h_1 data loaded =>
      rw [Option.ite_none_right_eq_some] at verified
      obtain ⟨⟨sameGid, _⟩, same⟩ := verified
      obtain rfl := Option.some.inj same
      exact ⟨sameGid, loadOnline_token loaded⟩
    case h_2 => cases verified
    case h_3 => cases verified

theorem Valid.verify (valid : Valid s) {i : Nat} {h : RecordHandler} {decoded : Option Int}
    (taken : s.verify i h decoded = some t) : Valid t := by
  unfold Credentials.verify at taken
  split at taken
  case h_2 => cases taken
  case h_3 => cases taken
  case h_1 =>
    split at taken
    case h_2 =>
      obtain rfl := Option.some.inj taken
      exact valid.with_phase i h .done (by simp)
    case h_1 online verified =>
      obtain rfl := Option.some.inj taken
      obtain ⟨sameGid, sameToken⟩ := verifyOnline_some verified
      apply valid.with_phase
      intro _ _ isVerified
      cases isVerified
      refine ⟨sameGid, Nat.le_refl _, ?_⟩
      intro _ token last
      rw [sameToken, valid.current h.gid token last]
      rfl

theorem Valid.save (valid : Valid s) {i : Nat} {h : RecordHandler} {p : Placement}
    (found : s.handlers[i]? = some h) (undisturbed : s.Undisturbed (.save i p))
    (taken : s.save i h p = some t) : Valid t := by
  unfold Credentials.save at taken
  cases phase : h.phase with
  | verifying => simp [phase] at taken
  | done => simp [phase] at taken
  | verified online logins =>
    have loaded := valid.loaded h (List.mem_of_getElem? found) online logins phase
    have fresh := undisturbed h found logins (by rw [phase]; rfl)
    have ended := valid.with_phase i h .done (by simp)
    rw [phase] at taken
    dsimp only at taken
    cases saved : saveOnline s.redis (h.placed online p) with
    | error error =>
      rw [saved] at taken
      obtain rfl := Option.some.inj taken
      exact ended
    | ok redis =>
      rw [saved] at taken
      obtain rfl := Option.some.inj taken
      constructor
      · intro gid token last
        have token' := saveOnline_token saved gid
        change (redis gid).token = some token
        rw [token']
        by_cases same : gid = (h.placed online p).gid
        · rw [if_pos same]
          have own : gid = h.gid := same.trans loaded.gid
          rw [own] at last
          exact congrArg some (loaded.token fresh token last)
        · rw [if_neg same]
          exact valid.current gid token last
      · intro k isHandler other logins isVerified
        exact { ended.loaded k isHandler other logins isVerified with }

theorem valid_step {l : Label} (valid : Valid s) (undisturbed : s.Undisturbed l)
    (taken : s.step l = some t) : Valid t := by
  cases l with
  | setToken gid account token => exact valid.login taken
  | request gid token session reconnect =>
    simp only [step, request, Option.ite_none_left_eq_some] at taken
    obtain ⟨_, taken⟩ := taken
    obtain rfl := Option.some.inj taken
    refine ⟨valid.current, ?_⟩
    intro h isHandler online logins isVerified
    rcases List.mem_append.mp isHandler with old | new
    · exact { valid.loaded h old online logins isVerified with }
    · rw [List.mem_singleton.mp new] at isVerified
      cases isVerified
  | verify i decoded =>
    obtain ⟨h, _, taken⟩ := Option.bind_eq_some_iff.mp taken
    exact valid.verify taken
  | save i p =>
    obtain ⟨h, found, taken⟩ := Option.bind_eq_some_iff.mp taken
    exact valid.save found undisturbed taken
  | giveUp i =>
    obtain ⟨h, _, rfl⟩ := Option.map_eq_some_iff.mp taken
    exact valid.with_phase i h .done (by simp)
  | setLogicOwner gid logicId =>
    simp only [step] at taken
    cases set : setLogicOwner s.redis gid logicId with
    | error error =>
      rw [set] at taken
      cases taken
    | ok redis =>
      rw [set] at taken
      obtain rfl := Option.some.inj taken
      exact valid.with_redis (setLogicOwner_token set)
  | clearGate gid session logoutTime =>
    obtain rfl := Option.some.inj taken
    exact valid.with_redis (clearGateBySession_token s.redis gid session logoutTime)

/-- The record holds the token that was issued last, as long as no handler writes
    back a record from before the last login. -/
theorem last_token_stays (reached : system.Reach Undisturbed s) (gid : Int) : s.Current gid := by
  have valid : Valid s := by
    apply reached.inv
    · rintro _ ⟨redis, rfl⟩
      constructor
      · intro gid token last
        cases last
      · intro h isHandler
        cases isHandler
    · intro s l t valid undisturbed taken
      exact valid_step valid undisturbed taken
  exact valid.current gid

/-- No player has a record yet. -/
def noRecords : Credentials := ⟨fun _ => .absent, [], []⟩

/-- A player logs in at Auth and at the Gate, twice. -/
def twoLogins : List Label :=
  [.setToken 5 "acc" "first", .request 5 "first" 7 false, .verify 0 (some 5), .save 0 ⟨10, 1, 2, 3⟩,
    .setToken 5 "acc" "second", .request 5 "second" 8 false, .verify 1 (some 5), .save 1 ⟨20, 1, 2, 3⟩]

theorem twoLogins_current : ∃ s : Credentials, s.issued 5 = ["first", "second"]
    ∧ (s.redis 5).sess = some 8 ∧ s.Current 5 := by
  have run : ∃ s, System.follow Undisturbed step noRecords twoLogins = some s
      ∧ s.issued 5 = ["first", "second"] ∧ (s.redis 5).sess = some 8 := by
    decide +kernel
  obtain ⟨s, followed, issued, saved⟩ := run
  exact ⟨s, issued, saved, last_token_stays (System.reach_of_follow ⟨_, rfl⟩ followed) 5⟩

/-- The second login at Auth comes while the first one waits for Logic. -/
def overtakenLogin : List Label :=
  [.setToken 5 "acc" "first", .request 5 "first" 7 false, .verify 0 (some 5),
    .setToken 5 "acc" "second", .save 0 ⟨10, 1, 2, 3⟩]

theorem overtakenLogin_restores :
    ¬ ∀ s : Credentials, system.Reach System.Any s → ∀ gid, s.Current gid := by
  intro current
  have stale : ∃ s, System.follow System.Any step noRecords overtakenLogin = some s
      ∧ (s.issued 5).getLast? = some "second" ∧ (s.redis 5).token = some "first" := by
    decide +kernel
  obtain ⟨s, followed, last, restored⟩ := stale
  have holds := current s (System.reach_of_follow ⟨_, rfl⟩ followed) 5 "second" last
  rw [restored] at holds
  revert holds
  decide

end Credentials

end Xkk.Gate
