import Xkk.Lib.Pool
import Xkk.Lib.Transition
import Xkk.Protocol.Messages

/-! # Accounts

`load_or_create_account` of any number of Auth instances, for one account name.
Each Redis and Mongo command is one step.  The account lock is a lease: it is
taken by `try_lock`, given back by `release`, and it may expire at any moment in
between.  The document is created by a load that finds nothing and an
unconditional upsert, so one account has one player id only as long as the lease
outlives these two commands (`Fenced`).
-/

namespace Xkk.Auth

open Xkk.Lib
open Xkk.Protocol

structure Role where
  gid : Int
  sid : Int
  name : String
  level : Int
  icon : Int
deriving DecidableEq, Repr

structure AccountData where
  account : String
  credentialHash : String
  roles : List Role
  createdAt : Int
deriving DecidableEq, Repr

/-- The player id that `login` issues the token for. -/
def AccountData.roleGid (account : AccountData) : Option Int := account.roles.head?.map Role.gid

/-- The document of a first login. -/
def AccountData.create (account hash : String) (gid createdAt : Int) : AccountData where
  account := account
  credentialHash := hash
  roles := [{ gid := gid, sid := 0, name := s!"Player{gid}", level := 1, icon := 0 }]
  createdAt := createdAt

/-- How a command of Redis or Mongo ends.  One that fails may have been applied. -/
inductive Answer where
  | ok
  | failed (applied : Bool)
deriving DecidableEq, Repr

def Answer.applied : Answer → Bool
  | .ok => true
  | .failed applied => applied

inductive CallPhase where
  | locking
  | loading
  | saving (account : AccountData)
  | releasing (result : Except Status AccountData)
  | returned (result : Except Status AccountData)
deriving Repr

/-- The call has the lock and its load or its save is still to come. -/
def CallPhase.busy : CallPhase → Bool
  | .loading | .saving _ => true
  | .locking | .releasing _ | .returned _ => false

/-- The account that the call returns. -/
def CallPhase.result : CallPhase → Option AccountData
  | .releasing (.ok a) | .returned (.ok a) => some a
  | _ => none

structure Call where
  credential : String
  phase : CallPhase
deriving Repr

/-- The lock and the document of one account; `lock` names the call that took it. -/
structure Accounts where
  lock : Option Nat
  stored : Option AccountData
  calls : List Call
deriving Repr

namespace Accounts

/-! ## `load_or_create_account` -/

section

-- `xkk_common::credential_hash`, and the account name
variable (credentialHash : String → String → String) (account : String)

def setCall (s : Accounts) (i : Nat) (c : Call) (phase : CallPhase) : Accounts :=
  { s with calls := s.calls.set i { c with phase := phase } }

def tryLock (s : Accounts) (i : Nat) (c : Call) (answer : Answer) : Option Accounts :=
  match c.phase with
  | .locking =>
    match answer with
    | .ok =>
      if s.lock = none then some { s.setCall i c .loading with lock := some i }
      else some (s.setCall i c
        (.returned (.error (errorStatus Code.RATE_LIMITED "account login in progress"))))
    | .failed applied =>
      some { s.setCall i c (.returned (.error (errorStatus Code.INTERNAL "account lock failed"))) with
        lock := if applied ∧ s.lock = none then some i else s.lock }
  | _ => none

/-- `accounts.load`; when there is no document, `gid` and `createdAt` are generated. -/
def load (s : Accounts) (i : Nat) (c : Call) (answer : Answer) (gid createdAt : Int) : Option Accounts :=
  match c.phase with
  | .loading =>
    match answer with
    | .ok =>
      match s.stored with
      | some stored =>
        if stored.credentialHash = credentialHash account c.credential then
          some (s.setCall i c (.releasing (.ok stored)))
        else some (s.setCall i c
          (.releasing (.error (errorStatus Code.UNAUTHENTICATED "credential mismatch"))))
      | none =>
        some (s.setCall i c
          (.saving (.create account (credentialHash account c.credential) gid createdAt)))
    | .failed _ =>
      some (s.setCall i c (.releasing (.error (errorStatus Code.INTERNAL "account load failed"))))
  | _ => none

/-- `accounts.save`, an upsert by `_id`. -/
def save (s : Accounts) (i : Nat) (c : Call) (answer : Answer) : Option Accounts :=
  match c.phase with
  | .saving created =>
    let stored := if answer.applied then some created else s.stored
    match answer with
    | .ok => some { s.setCall i c (.releasing (.ok created)) with stored := stored }
    | .failed _ =>
      some { s.setCall i c (.releasing (.error (errorStatus Code.INTERNAL "account create failed"))) with
        stored := stored }
  | _ => none

/-- `lock.release` deletes the lock of this call only; its failure is logged. -/
def release (s : Accounts) (i : Nat) (c : Call) (answer : Answer) : Option Accounts :=
  match c.phase with
  | .releasing result =>
    some { s.setCall i c (.returned result) with
      lock := if answer.applied ∧ s.lock = some i then none else s.lock }
  | _ => none

/-! ## Runs -/

inductive Label where
  | call (credential : String)
  | tryLock (i : Nat) (answer : Answer)
  | load (i : Nat) (answer : Answer) (gid createdAt : Int)
  | save (i : Nat) (answer : Answer)
  | release (i : Nat) (answer : Answer)
  | expire
deriving DecidableEq, Repr

def step (s : Accounts) : Label → Option Accounts
  | .call credential => some { s with calls := s.calls ++ [⟨credential, .locking⟩] }
  | .tryLock i answer => s.calls[i]?.bind (s.tryLock i · answer)
  | .load i answer gid createdAt =>
    s.calls[i]?.bind (s.load credentialHash account i · answer gid createdAt)
  | .save i answer => s.calls[i]?.bind (s.save i · answer)
  | .release i answer => s.calls[i]?.bind (s.release i · answer)
  | .expire => if s.lock = none then none else some { s with lock := none }

/-- Nobody has called yet; the account may exist. -/
def Fresh (s : Accounts) : Prop := s.lock = none ∧ s.calls = []

def system : System Accounts Label := .ofFun Fresh (step credentialHash account)

end

variable {credentialHash : String → String → String} {account : String} {s t : Accounts}

/-- What one command makes of the call `i`, of the lock and of the document. -/
inductive Moves (s : Accounts) (i : Nat) :
    CallPhase → CallPhase → Option Nat → Option AccountData → Prop
  | lock : s.lock = none → Moves s i .locking .loading (some i) s.stored
  | refused {status : Status} : Moves s i .locking (.returned (.error status)) s.lock s.stored
  -- the lock was taken, but the call does not know
  | orphaned {status : Status} : s.lock = none →
      Moves s i .locking (.returned (.error status)) (some i) s.stored
  | found {a : AccountData} : s.stored = some a → Moves s i .loading (.releasing (.ok a)) s.lock s.stored
  | rejected {status : Status} : Moves s i .loading (.releasing (.error status)) s.lock s.stored
  | missing {a : AccountData} : s.stored = none → Moves s i .loading (.saving a) s.lock s.stored
  | saved {a : AccountData} : Moves s i (.saving a) (.releasing (.ok a)) s.lock (some a)
  -- the document was stored, but the call does not know
  | unconfirmed {a : AccountData} {status : Status} :
      Moves s i (.saving a) (.releasing (.error status)) s.lock (some a)
  | unsaved {a : AccountData} {status : Status} :
      Moves s i (.saving a) (.releasing (.error status)) s.lock s.stored
  | unlock {result : Except Status AccountData} : s.lock = some i →
      Moves s i (.releasing result) (.returned result) none s.stored
  | leave {result : Except Status AccountData} :
      Moves s i (.releasing result) (.returned result) s.lock s.stored

/-- The call `i` makes a step. -/
def Advances (s t : Accounts) : Prop :=
  ∃ (i : Nat) (c : Call) (phase : CallPhase), s.calls[i]? = some c
    ∧ t.calls = s.calls.set i { c with phase := phase } ∧ Moves s i c.phase phase t.lock t.stored

theorem tryLock_advances {i : Nat} {c : Call} {answer : Answer} (found : s.calls[i]? = some c)
    (taken : s.tryLock i c answer = some t) : Advances s t := by
  unfold tryLock at taken
  split at taken
  case h_1 locking =>
    cases answer with
    | ok =>
      dsimp only at taken
      split at taken <;> obtain rfl := Option.some.inj taken
      case isTrue isFree => exact ⟨i, c, _, found, rfl, locking ▸ .lock isFree⟩
      case isFalse => exact ⟨i, c, _, found, rfl, locking ▸ .refused⟩
    | failed applied =>
      obtain rfl := Option.some.inj taken
      refine ⟨i, c, _, found, rfl, ?_⟩
      rw [locking]
      dsimp only
      split
      case isTrue isFree => exact .orphaned isFree.2
      case isFalse => exact .refused
  case h_2 => cases taken

theorem load_advances {i : Nat} {c : Call} {answer : Answer} {gid createdAt : Int}
    (found : s.calls[i]? = some c)
    (taken : s.load credentialHash account i c answer gid createdAt = some t) : Advances s t := by
  unfold load at taken
  split at taken
  case h_1 loading =>
    cases answer with
    | ok =>
      dsimp only at taken
      split at taken
      case h_1 stored isStored =>
        split at taken <;> obtain rfl := Option.some.inj taken
        · exact ⟨i, c, _, found, rfl, loading ▸ .found isStored⟩
        · exact ⟨i, c, _, found, rfl, loading ▸ .rejected⟩
      case h_2 isMissing =>
        obtain rfl := Option.some.inj taken
        exact ⟨i, c, _, found, rfl, loading ▸ .missing isMissing⟩
    | failed applied =>
      obtain rfl := Option.some.inj taken
      exact ⟨i, c, _, found, rfl, loading ▸ .rejected⟩
  case h_2 => cases taken

theorem save_advances {i : Nat} {c : Call} {answer : Answer} (found : s.calls[i]? = some c)
    (taken : s.save i c answer = some t) : Advances s t := by
  unfold save at taken
  split at taken
  case h_1 created saving =>
    cases answer with
    | ok =>
      obtain rfl := Option.some.inj taken
      exact ⟨i, c, _, found, rfl, saving ▸ .saved⟩
    | failed applied =>
      obtain rfl := Option.some.inj taken
      refine ⟨i, c, _, found, rfl, ?_⟩
      rw [saving]
      cases applied with
      | true => exact .unconfirmed
      | false => exact .unsaved
  case h_2 => cases taken

theorem release_advances {i : Nat} {c : Call} {answer : Answer} (found : s.calls[i]? = some c)
    (taken : s.release i c answer = some t) : Advances s t := by
  unfold release at taken
  split at taken
  case h_1 result releasing =>
    obtain rfl := Option.some.inj taken
    refine ⟨i, c, _, found, rfl, ?_⟩
    rw [releasing]
    dsimp only
    split
    case isTrue own => exact .unlock own.2
    case isFalse => exact .leave
  case h_2 => cases taken

theorem step_cases {l : Label} (taken : s.step credentialHash account l = some t) :
    (∃ credential, t = { s with calls := s.calls ++ [⟨credential, .locking⟩] })
    ∨ (l = .expire ∧ s.lock ≠ none ∧ t = { s with lock := none }) ∨ Advances s t := by
  cases l with
  | call credential =>
    obtain rfl := Option.some.inj taken
    exact .inl ⟨credential, rfl⟩
  | tryLock i answer =>
    obtain ⟨c, found, taken⟩ := Option.bind_eq_some_iff.mp taken
    exact .inr (.inr (tryLock_advances found taken))
  | load i answer gid createdAt =>
    obtain ⟨c, found, taken⟩ := Option.bind_eq_some_iff.mp taken
    exact .inr (.inr (load_advances found taken))
  | save i answer =>
    obtain ⟨c, found, taken⟩ := Option.bind_eq_some_iff.mp taken
    exact .inr (.inr (save_advances found taken))
  | release i answer =>
    obtain ⟨c, found, taken⟩ := Option.bind_eq_some_iff.mp taken
    exact .inr (.inr (release_advances found taken))
  | expire =>
    simp only [step, Option.ite_none_left_eq_some, Option.some.injEq] at taken
    exact .inr (.inl ⟨rfl, taken.1, taken.2.symm⟩)

/-! ## One creator at a time -/

/-- The lock does not expire under a call that may still create the account. -/
def Fenced (s : Accounts) (l : Label) : Prop :=
  l = .expire → ∀ (i : Nat) c, s.lock = some i → s.calls[i]? = some c → c.phase.busy = true →
    s.stored ≠ none

/-- As long as there is no document only the owner of the lock can create it, and
    every account that was returned is the document. -/
structure Unique (s : Accounts) : Prop where
  owner : ∀ (i : Nat) c, s.calls[i]? = some c → c.phase.busy = true → s.stored = none → s.lock = some i
  creator : ∀ (i : Nat) c a, s.calls[i]? = some c → c.phase = .saving a → s.stored = none
  answers : ∀ (i : Nat) c a, s.calls[i]? = some c → c.phase.result = some a → s.stored = some a

/-- A step of the call `i` that leaves the document alone. -/
theorem Unique.keep (inv : Unique s) {i : Nat} {c' : Call} (calls : t.calls = s.calls.set i c')
    (stored : t.stored = s.stored) (lock : ∀ j, j ≠ i → s.lock = some j → t.lock = some j)
    (owner : c'.phase.busy = true → s.stored = none → t.lock = some i)
    (creator : ∀ a, c'.phase = .saving a → s.stored = none)
    (answers : ∀ a, c'.phase.result = some a → s.stored = some a) : Unique t := by
  constructor
  · intro j d found busy isMissing
    rw [calls] at found
    rw [stored] at isMissing
    rcases Pool.get_set_cases found with ⟨rfl, rfl⟩ | ⟨apart, before⟩
    · exact owner busy isMissing
    · exact lock j apart.symm (inv.owner j d before busy isMissing)
  · intro j d a found saving
    rw [calls] at found
    rw [stored]
    rcases Pool.get_set_cases found with ⟨rfl, rfl⟩ | ⟨_, before⟩
    · exact creator a saving
    · exact inv.creator j d a before saving
  · intro j d a found result
    rw [calls] at found
    rw [stored]
    rcases Pool.get_set_cases found with ⟨rfl, rfl⟩ | ⟨_, before⟩
    · exact answers a result
    · exact inv.answers j d a before result

/-- The call that found no document stores its own. -/
theorem Unique.create (inv : Unique s) {i : Nat} {c c' : Call} {a : AccountData}
    (found : s.calls[i]? = some c) (saving : c.phase = .saving a) (calls : t.calls = s.calls.set i c')
    (stored : t.stored = some a) (idle : c'.phase.busy = false)
    (own : ∀ b, c'.phase.result = some b → b = a) : Unique t := by
  have isMissing := inv.creator i c a found saving
  have lock := inv.owner i c found (by rw [saving]; rfl) isMissing
  constructor
  · intro j d _ _ none
    rw [stored] at none
    cases none
  · intro j d b there other
    exfalso
    rw [calls] at there
    rcases Pool.get_set_cases there with ⟨rfl, rfl⟩ | ⟨apart, before⟩
    · rw [other] at idle
      cases idle
    · -- two creators would both own the lock
      have second := inv.owner j d before (by rw [other]; rfl) isMissing
      rw [lock] at second
      exact apart (Option.some.inj second)
  · intro j d b there result
    rw [calls] at there
    rcases Pool.get_set_cases there with ⟨rfl, rfl⟩ | ⟨_, before⟩
    · rw [stored, own b result]
    · have already := inv.answers j d b before result
      rw [isMissing] at already
      cases already

theorem Unique.advance (inv : Unique s) (advances : Advances s t) : Unique t := by
  obtain ⟨i, c, phase, found, calls, moves⟩ := advances
  have same : ∀ {lock : Option Nat}, lock = s.lock → ∀ j, j ≠ i → s.lock = some j → lock = some j :=
    fun kept _ _ held => kept.trans held
  have taken : ∀ {lock : Option Nat}, s.lock = none → ∀ j, j ≠ i → s.lock = some j → lock = some j := by
    intro lock isFree j _ held
    rw [isFree] at held
    cases held
  generalize isBefore : c.phase = before at moves
  generalize isLock : t.lock = lock at moves
  generalize isStored : t.stored = stored at moves
  cases moves with
  | lock isFree => exact inv.keep calls isStored (taken isFree) (fun _ _ => isLock) nofun nofun
  | refused => exact inv.keep calls isStored (same isLock) nofun nofun nofun
  | orphaned isFree => exact inv.keep calls isStored (taken isFree) nofun nofun nofun
  | @found a isThere =>
    refine inv.keep calls isStored (same isLock) nofun nofun ?_
    intro b result
    rw [isThere]
    exact result
  | rejected => exact inv.keep calls isStored (same isLock) nofun nofun nofun
  | missing isMissing =>
    refine inv.keep calls isStored (same isLock) ?_ (fun _ _ => isMissing) nofun
    intro _ _
    rw [isLock]
    exact inv.owner i c found (by rw [isBefore]; rfl) isMissing
  | saved => exact inv.create found isBefore calls isStored rfl (fun b result => (Option.some.inj result).symm)
  | unconfirmed => exact inv.create found isBefore calls isStored rfl nofun
  | unsaved => exact inv.keep calls isStored (same isLock) nofun nofun nofun
  | @unlock result own =>
    refine inv.keep calls isStored ?_ nofun nofun ?_
    · intro j apart held
      rw [own] at held
      exact absurd (Option.some.inj held).symm apart
    · intro a returns
      apply inv.answers i c a found
      rw [isBefore]
      cases result <;> exact returns
  | @leave result =>
    refine inv.keep calls isStored (same isLock) nofun nofun ?_
    intro a returns
    apply inv.answers i c a found
    rw [isBefore]
    cases result <;> exact returns

theorem Unique.step (inv : Unique s) {l : Label} (taken : s.step credentialHash account l = some t)
    (fenced : Fenced s l) : Unique t := by
  obtain ⟨credential, rfl⟩ | ⟨rfl, held, rfl⟩ | advances := step_cases taken
  · constructor
    · intro i c found busy
      rcases Pool.get_append_cases found with ⟨_, rfl⟩ | ⟨_, before⟩
      · cases busy
      · exact inv.owner i c before busy
    · intro i c a found saving
      rcases Pool.get_append_cases found with ⟨_, rfl⟩ | ⟨_, before⟩
      · cases saving
      · exact inv.creator i c a before saving
    · intro i c a found result
      rcases Pool.get_append_cases found with ⟨_, rfl⟩ | ⟨_, before⟩
      · cases result
      · exact inv.answers i c a before result
  · refine ⟨?_, inv.creator, inv.answers⟩
    intro i c found busy isMissing
    exact absurd isMissing (fenced rfl i c (inv.owner i c found busy isMissing) found busy)
  · exact inv.advance advances

theorem unique_reach (reached : (system credentialHash account).Reach Fenced s) : Unique s := by
  refine reached.inv ?_ (fun s l t inv fenced taken => inv.step taken fenced)
  rintro s ⟨_, none⟩
  constructor <;> intro i c <;> simp [none]

/-- A call that returned stays as it is. -/
theorem returned_step {l : Label} (taken : s.step credentialHash account l = some t) {i : Nat} {c : Call}
    {result : Except Status AccountData} (found : s.calls[i]? = some c) (returned : c.phase = .returned result) :
    t.calls[i]? = some c := by
  obtain ⟨credential, rfl⟩ | ⟨rfl, _, rfl⟩ | ⟨j, d, phase, there, calls, moves⟩ := step_cases taken
  · exact Pool.get_append_of_some _ found
  · exact found
  · by_cases same : j = i
    · subst same
      rw [found] at there
      obtain rfl := Option.some.inj there
      rw [returned] at moves
      cases moves
    · rw [calls, Pool.get_set_ne _ same]
      exact found

/-! ## The main result -/

/-- For every interleaving in which the lock does not expire under a call that may
    still create the account: once a call has returned an account, this account is
    the stored document from then on, and every other call that returns `Ok`
    returns it as well. -/
theorem one_account_one_gid (reached : (system credentialHash account).Reach Fenced s) {i : Nat} {c : Call}
    {a : AccountData} (found : s.calls[i]? = some c) (returned : c.phase = .returned (.ok a))
    (run : (system credentialHash account).Run Fenced s t) :
    t.stored = some a
    ∧ ∀ (j : Nat) d b, t.calls[j]? = some d → d.phase = .returned (.ok b) → b = a := by
  have kept : t.calls[i]? = some c :=
    run.inv (I := fun t => t.calls[i]? = some c)
      (fun _ _ _ there _ taken => returned_step taken there returned) found
  have unique := unique_reach (reached.run run)
  have stored := unique.answers i c a kept (by rw [returned]; rfl)
  refine ⟨stored, ?_⟩
  intro j d b there other
  have same := unique.answers j d b there (by rw [other]; rfl)
  rw [stored] at same
  exact (Option.some.inj same).symm

/-- The hash of the account `a` with the credential `secret`. -/
def secretHash : String → String → String :=
  fun _ _ => "9c5997d231ef441e344368a9841eaff8461cc9d2a718b131be2afe9a4ae5d5f9"

/-- Two logins, one after the other. -/
def loginTwice : List Label :=
  [.call "secret", .tryLock 0 .ok, .load 0 .ok 71 1000, .save 0 .ok, .release 0 .ok,
    .call "secret", .tryLock 1 .ok, .load 1 .ok 72 1001, .release 1 .ok]

theorem loginTwice_same_gid :
    ∃ (s : Accounts) (first second : Call) (a b : AccountData),
      s.calls = [first, second] ∧ first.phase = .returned (.ok a) ∧ second.phase = .returned (.ok b)
      ∧ a.roleGid = some 71 ∧ s.stored = some a ∧ b = a := by
  have run : ∃ s, System.follow (fun _ l => l ≠ .expire) (step secretHash "a") ⟨none, none, []⟩ loginTwice = some s
      ∧ ∃ (first second : Call) (a b : AccountData), s.calls = [first, second]
        ∧ first.phase = .returned (.ok a) ∧ second.phase = .returned (.ok b) ∧ a.roleGid = some 71 :=
    ⟨_, rfl, _, _, _, _, rfl, rfl, rfl, rfl⟩
  obtain ⟨s, followed, first, second, a, b, calls, firstOk, secondOk, gid⟩ := run
  have reached : (system secretHash "a").Reach (fun _ l => l ≠ .expire) s :=
    System.reach_of_follow ⟨rfl, rfl⟩ followed
  have fenced := reached.mono (D := Fenced) (fun _ _ unexpired expires => absurd expires unexpired)
  obtain ⟨stored, same⟩ := one_account_one_gid fenced (i := 0) (c := first) (by rw [calls]; rfl) firstOk .refl
  exact ⟨s, first, second, a, b, calls, firstOk, secondOk, gid, stored,
    same 1 second b (by rw [calls]; rfl) secondOk⟩

/-- The lock expires between the load and the save of the first call, and a second
    call creates the account as well. -/
def loginOverlapped : List Label :=
  [.call "secret", .call "secret", .tryLock 0 .ok, .load 0 .ok 71 1000, .expire,
    .tryLock 1 .ok, .load 1 .ok 72 1005, .save 0 .ok, .save 1 .ok, .release 0 .ok, .release 1 .ok]

theorem loginOverlapped_two_gids :
    ∃ (s : Accounts) (first second : Call) (a b : AccountData),
      (system secretHash "a").Reach System.Any s ∧ s.calls = [first, second]
      ∧ first.phase = .returned (.ok a) ∧ second.phase = .returned (.ok b)
      ∧ a.roleGid = some 71 ∧ b.roleGid = some 72 ∧ s.stored = some b := by
  have run : ∃ s, System.follow System.Any (step secretHash "a") ⟨none, none, []⟩ loginOverlapped = some s
      ∧ ∃ (first second : Call) (a b : AccountData), s.calls = [first, second]
        ∧ first.phase = .returned (.ok a) ∧ second.phase = .returned (.ok b)
        ∧ a.roleGid = some 71 ∧ b.roleGid = some 72 ∧ s.stored = some b :=
    ⟨_, rfl, _, _, _, _, rfl, rfl, rfl, rfl, rfl, rfl⟩
  obtain ⟨s, followed, first, second, a, b, ends⟩ := run
  exact ⟨s, first, second, a, b, System.reach_of_follow ⟨rfl, rfl⟩ followed, ends⟩

end Accounts

end Xkk.Auth
