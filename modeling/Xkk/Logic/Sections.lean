import Xkk.Logic.Permits

/-! # The locked section of an `enqueue`

An `enqueue` holds the directory lock from the lookup of its slot to its end, so
nobody else works on the mailbox of its player meanwhile.  A call that is rejected
there leaves the directory, the mailboxes and the live permits as they were.
-/

set_option linter.unusedSectionVars false

namespace Xkk.Logic

open Xkk.Lib

variable {P A R E : Type} [LogicState P]

/-- The locked section of the `enqueue` is over. -/
def EnqueuePhase.ended : EnqueuePhase → Bool
  | .counting _ | .spawning _ | .accepted | .rejected _ => true
  | .calling | .acquiring _ _ => false

namespace Runtime

variable {config : LogicConfig} {s t : Runtime P A R E}

/-! ## What a step leaves alone -/

/-- The directory and the mailbox of the player are the same in both states. -/
structure SameMailbox (s t : Runtime P A R E) (gid : Gid) : Prop where
  directory : t.directory gid = s.directory gid
  mailbox : (t.desk gid).mailbox = (s.desk gid).mailbox

theorem SameMailbox.trans {u : Runtime P A R E} {gid : Gid} (first : SameMailbox s t gid)
    (second : SameMailbox t u gid) : SameMailbox s u gid where
  directory := second.directory.trans first.directory
  mailbox := second.mailbox.trans first.mailbox

/-- The slot of another player changes. -/
theorem Owned.sameMailbox_set (owned : Owned config s) {gid other : Gid} {m : Nat} {slot : KeySlot P A R}
    (mapped : s.directory gid = some m) (differ : other ≠ gid) (directory : t.directory = s.directory)
    (slots : t.slots = s.slots.set m slot) : SameMailbox s t other where
  directory := by rw [directory]
  mailbox := by
    simp only [Runtime.desk, directory, slots]
    exact owned.mailbox_set_ne slot mapped differ

/-- The slot of another player is removed. -/
theorem sameMailbox_remove {gid other : Gid} (differ : other ≠ gid)
    (directory : t.directory = Function.update s.directory gid none) (slots : t.slots = s.slots) :
    SameMailbox s t other where
  directory := by rw [directory, Function.update_of_ne differ]
  mailbox := by simp only [Runtime.desk, directory, slots, Function.update_of_ne differ]

/-- A slot is inserted for another player. -/
theorem Owned.sameMailbox_new (owned : Owned config s) {gid other : Gid} {slot : KeySlot P A R}
    (differ : other ≠ gid) (directory : t.directory = Function.update s.directory gid (some s.slots.length))
    (slots : t.slots = s.slots ++ [slot]) : SameMailbox s t other where
  directory := by rw [directory, Function.update_of_ne differ]
  mailbox := by
    simp only [Runtime.desk, directory, slots]
    exact owned.mailbox_append_ne slot _ differ

/-- Once it has the lock an `enqueue` stays where it is or comes to the end of its
    section. -/
theorem enqueue_step {i : Nat} {e : Enqueue P A R} (taken : Step config s t)
    (found : s.enqueues[i]? = some e) (called : e.phase ≠ .calling) :
    t.enqueues[i]? = some e ∨ ∃ e', t.enqueues[i]? = some e' ∧ e'.phase.ended = true := by
  have set : ∀ {j : Nat} {other : Enqueue P A R} {phase : EnqueuePhase}, s.enqueues[j]? = some other →
      t.enqueues = s.enqueues.set j { other with phase := phase } →
      other.phase = .calling ∨ phase.ended = true →
      t.enqueues[i]? = some e ∨ ∃ e', t.enqueues[i]? = some e' ∧ e'.phase.ended = true := by
    intro j other phase there enqueues either
    rw [enqueues]
    by_cases same : j = i
    · subst same
      rw [found] at there
      obtain rfl := Option.some.inj there
      refine .inr ⟨_, Pool.get_set_self _ found, ?_⟩
      cases either with
      | inl calling => exact absurd calling called
      | inr ended => exact ended
    · rw [Pool.get_set_ne _ same]
      exact .inl found
  cases taken with
  | tryUse => exact .inl (Pool.get_append_of_some _ found)
  | full there calling => exact set there rfl (.inl calling)
  | lock there calling => exact set there rfl (.inl calling)
  | lockNew there calling => exact set there rfl (.inl calling)
  | @push j m spawnRunner other slot holder there acquiring =>
    cases spawnRunner with
    | true => exact set there rfl (.inr rfl)
    | false => exact set there rfl (.inr rfl)
  | @refuse j m spawnRunner other reason holder there acquiring =>
    cases spawnRunner with
    | true => exact set there rfl (.inr rfl)
    | false => exact set there rfl (.inr rfl)
  | count there counting => exact set there rfl (.inr rfl)
  | spawn there spawning => exact set there rfl (.inr rfl)
  | _ => exact .inl found

/-- While an `enqueue` holds the lock of its shard nobody else works on its
    mailbox. -/
theorem Owned.mailbox_kept (owned : Owned config s) (taken : Step config s t) {i m : Nat} {spawnRunner : Bool}
    {e : Enqueue P A R} (found : s.enqueues[i]? = some e) (acquiring : e.phase = .acquiring m spawnRunner)
    (still : t.enqueues[i]? = some e) : SameMailbox s t e.gid := by
  have locks : e.phase.locks = true := by rw [acquiring]; rfl
  have held := owned.enqueueLocks i e found locks
  have apart : ∀ {gid : Gid}, s.locks (config.directory gid) = none → e.gid ≠ gid := by
    intro gid isFree same
    rw [← same, held] at isFree
    cases isFree
  -- a push or a refusal is made by another `enqueue`, for another player
  have others : ∀ {j n : Nat} {spawns : Bool} {other : Enqueue P A R} {phase : EnqueuePhase},
      s.enqueues[j]? = some other → other.phase = .acquiring n spawns → phase.ended = true →
      t.enqueues = s.enqueues.set j { other with phase := phase } → e.gid ≠ other.gid := by
    intro j n spawns other phase there isAcquiring ended enqueues same
    by_cases atJ : i = j
    · subst atJ
      rw [enqueues, Pool.get_set_self _ there] at still
      have unchanged := congrArg Enqueue.phase (Option.some.inj still)
      rw [acquiring] at unchanged
      change phase = _ at unchanged
      rw [unchanged] at ended
      cases ended
    · have unlocked := owned.lock_alone found locks atJ there same.symm
      rw [isAcquiring] at unlocked
      cases unlocked
  cases taken with
  | lockNew there calling isFree unmapped => exact owned.sameMailbox_new (apart isFree) rfl rfl
  | @push j n spawns other slot holder there isAcquiring =>
    have mapped := owned.ofEnqueue j other n there (by rw [isAcquiring]; rfl)
    cases spawns with
    | true => exact owned.sameMailbox_set mapped (others there isAcquiring rfl rfl) rfl rfl
    | false => exact owned.sameMailbox_set mapped (others there isAcquiring rfl rfl) rfl rfl
  | @refuse j n spawns other reason holder there isAcquiring =>
    cases spawns with
    | true => exact sameMailbox_remove (s := s) (others there isAcquiring rfl rfl) rfl rfl
    | false => exact ⟨rfl, rfl⟩
  | take isRunner either isFree mapped => exact owned.sameMailbox_set mapped (apart isFree) rfl rfl
  | completeNext isRunner completing isFree mapped =>
    exact owned.sameMailbox_set mapped (apart isFree) rfl rfl
  | completeLast isRunner completing isFree mapped =>
    exact owned.sameMailbox_set mapped (apart isFree) rfl rfl
  | retire isRunner checking isFree mapped => exact sameMailbox_remove (s := s) (apart isFree) rfl rfl
  | _ => exact ⟨rfl, rfl⟩

/-- The permit of an `enqueue` stays with it until the command is in the mailbox. -/
theorem Served.permit_kept {config : ValidConfig} (served : Served config s)
    (taken : Step config.toLogicConfig s t) {i m : Nat} {spawnRunner : Bool} {e : Enqueue P A R}
    (found : s.enqueues[i]? = some e) (acquiring : e.phase = .acquiring m spawnRunner)
    (held : s.Holds i (.acquiring .permit)) : t.Holds i (.acquiring .permit) := by
  obtain ⟨holder, there, live⟩ := Option.map_eq_some_iff.mp held
  have keeps : ∀ {l : AdmissionPool.Label} {pool : AdmissionPool.State},
      AdmissionPool.step s.pool l = some pool → l ≠ .drop i →
      (pool.holders[i]?).map AdmissionPool.Holder.phase = some (.acquiring .permit) := by
    intro l pool moved kept
    rw [AdmissionPool.permit_kept moved there live kept, Option.map_some, live]
  cases taken with
  | tryUse acquired => exact keeps acquired (by simp)
  | acquire found' acquiring' ticked => exact keeps ticked (by simp)
  | @push j n spawns other slot holder' found' acquiring' =>
    cases spawns with
    | true => exact held
    | false => exact held
  | @refuse j n spawns other reason holder' found' acquiring' =>
    cases spawns with
    | true => exact held
    | false => exact held
  | @drop j id r next pool isRunner dropping dropped =>
    refine keeps dropped ?_
    intro same
    obtain rfl := AdmissionPool.Label.drop.inj same
    -- the command of the permit that is dropped was pushed
    have live' : id ∈ r.phase.live ∨ id ∈ r.phase.half := by
      rw [dropping]
      exact .inl List.mem_cons_self
    obtain ⟨e', found', _, pushed⟩ := served.numbered.pushed r.gid id
      (served.dispatched.live_accepted isRunner live')
    rw [found] at found'
    obtain rfl := Option.some.inj found'
    rw [acquiring] at pushed
    cases pushed
  | dropKib isRunner dropping dropped => exact keeps dropped (by simp)
  | close there closing closed => exact keeps closed (by simp)
  | _ => exact held

/-! ## The section of a call -/

/-- The section of the `enqueue` is not over, and its mailbox is as at its lock. -/
def InSection (s : Runtime P A R E) (i : Nat) (e : Enqueue P A R) (t : Runtime P A R E) : Prop :=
  t.enqueues[i]? = some e ∧ SameMailbox s t e.gid

/-- The section of the `enqueue` is over. -/
def PastSection (i : Nat) (t : Runtime P A R E) : Prop :=
  ∃ e, t.enqueues[i]? = some e ∧ e.phase.ended = true

theorem PastSection.step {i : Nat} (past : PastSection i s) (taken : Step config s t) : PastSection i t := by
  obtain ⟨e, found, ended⟩ := past
  have called : e.phase ≠ .calling := by
    intro calling
    rw [calling] at ended
    cases ended
  cases enqueue_step taken found called with
  | inl same => exact ⟨e, same, ended⟩
  | inr moved => exact moved

section Sections

variable {config : ValidConfig} {u v : Runtime P A R E} {i m : Nat} {spawnRunner : Bool} {e : Enqueue P A R}

theorem section_run (reached : (system P A R E config).Reach System.Any u)
    (found : u.enqueues[i]? = some e) (acquiring : e.phase = .acquiring m spawnRunner)
    (run : (system P A R E config).Run System.Any u v) : InSection u i e v ∨ PastSection i v := by
  refine run.inv_with (I := fun v => InSection u i e v ∨ PastSection i v)
    (J := Served config) (fun _ => served_reach) ?_ reached (.inl ⟨found, ⟨rfl, rfl⟩⟩)
  intro s label t served before _ taken
  have moved := step_sound taken
  cases before with
  | inl inside =>
    obtain ⟨there, same⟩ := inside
    cases enqueue_step moved there (by rw [acquiring]; simp) with
    | inl still => exact .inl ⟨still, same.trans (served.owned.mailbox_kept moved there acquiring still)⟩
    | inr ended => exact .inr ended
  | inr past => exact .inr (past.step moved)

/-- A permit that was granted inside of the section is still there at its end. -/
theorem permit_run (reached : (system P A R E config).Reach System.Any u)
    (found : u.enqueues[i]? = some e) (acquiring : e.phase = .acquiring m spawnRunner)
    (granted : u.Holds i (.acquiring .permit)) (run : (system P A R E config).Run System.Any u v) :
    (v.enqueues[i]? = some e ∧ v.Holds i (.acquiring .permit)) ∨ PastSection i v := by
  refine run.inv_with
    (I := fun v => (v.enqueues[i]? = some e ∧ v.Holds i (.acquiring .permit)) ∨ PastSection i v)
    (J := Served config) (fun _ => served_reach) ?_ reached (.inl ⟨found, granted⟩)
  intro s label t served before _ taken
  have moved := step_sound taken
  cases before with
  | inl inside =>
    obtain ⟨there, held⟩ := inside
    cases enqueue_step moved there (by rw [acquiring]; simp) with
    | inl still => exact .inl ⟨still, served.permit_kept moved there acquiring held⟩
    | inr ended => exact .inr ended
  | inr past => exact .inr (past.step moved)

end Sections

/-! ## Its first and its last step -/

def Rejected (s : Runtime P A R E) (i : Nat) : Prop :=
  ∃ e reason, s.enqueues[i]? = some e ∧ e.phase = .rejected reason

theorem lock_cases {i : Nat} {e : Enqueue P A R} (found : s.enqueues[i]? = some e)
    (taken : s.step config (.lock i) = some t) :
    t = s.setEnqueue i e (.rejected .gid)
    ∨ (∃ m, s.directory e.gid = some m ∧ t = { s.setEnqueue i e (.acquiring m false) with
        locks := Function.update s.locks (config.directory e.gid) (some (.enqueue i)) })
    ∨ s.directory e.gid = none ∧ t = { s.setEnqueue i e (.acquiring s.slots.length true) with
        locks := Function.update s.locks (config.directory e.gid) (some (.enqueue i))
        slots := s.slots ++ [⟨e.gid, [], 0, 0⟩]
        directory := Function.update s.directory e.gid (some s.slots.length) } := by
  simp only [Runtime.step, found, Option.bind_some, Runtime.lock] at taken
  split at taken
  case isFalse => cases taken
  case isTrue =>
    split at taken
    case h_1 m mapped =>
      obtain ⟨slot, there, rfl⟩ := Option.map_eq_some_iff.mp taken
      split
      · exact .inl rfl
      · exact .inr (.inl ⟨m, mapped, rfl⟩)
    case h_2 unmapped =>
      split at taken
      · obtain rfl := Option.some.inj taken
        exact .inl rfl
      · obtain rfl := Option.some.inj taken
        exact .inr (.inr ⟨unmapped, rfl⟩)

/-- The last step of a call that is rejected, and what it found. -/
theorem rejected_cases {i : Nat} (taken : s.step config (.acquired i) = some t) (rejected : t.Rejected i) :
    ∃ e m spawnRunner reason, s.enqueues[i]? = some e ∧ e.phase = .acquiring m spawnRunner
      ∧ s.Holds i (.acquiring (.rejected reason))
      ∧ t = Runtime.unlock config (Runtime.setEnqueue
        (if spawnRunner then { s with directory := Function.update s.directory e.gid none } else s)
        i e (.rejected reason)) e.gid := by
  obtain ⟨e, found, acquired⟩ := Option.bind_eq_some_iff.mp taken
  unfold Runtime.acquired at acquired
  split at acquired
  case h_1 m spawnRunner acquiring =>
    split at acquired
    · -- an accepted call is not rejected
      obtain ⟨slot, there, rfl⟩ := Option.map_eq_some_iff.mp acquired
      obtain ⟨e', reason, found', isRejected⟩ := rejected
      cases spawnRunner with
      | true =>
        simp only [if_true, Runtime.setEnqueue, Runtime.push, Pool.get_set_self _ found] at found'
        rw [← Option.some.inj found'] at isRejected
        cases isRejected
      | false =>
        simp only [Bool.false_eq_true, if_false, Runtime.unlock, Runtime.setEnqueue, Runtime.push,
          Pool.get_set_self _ found] at found'
        rw [← Option.some.inj found'] at isRejected
        cases isRejected
    · next reason held =>
      obtain rfl := Option.some.inj acquired
      exact ⟨e, m, spawnRunner, reason, found, acquiring, held, rfl⟩
    · cases acquired
  case h_2 => cases acquired

/-- The same permits are live in both states. -/
def SamePermits (s t : Runtime P A R E) : Prop :=
  ∀ id, t.Holds id (.acquiring .permit) ↔ s.Holds id (.acquiring .permit)

/-- What the steps of the `enqueue` call `i` leave behind when it is rejected; `s`
    is the state before its lock.  A call that finds its mailbox full leaves
    everything as it is.  A call that the admission rejects in `w`, after steps of
    others, leaves its player as it was in `s`, and each of its own steps leaves the
    other players and the live permits alone. -/
def LeavesNothing (config : ValidConfig) (s : Runtime P A R E) (i : Nat) (gid : Gid) : Prop :=
  ∀ u, s.step config.toLogicConfig (.lock i) = some u →
    (u.Rejected i → u.directory = s.directory ∧ u.slots = s.slots ∧ u.pool = s.pool)
    ∧ ∀ v w, (system P A R E config).Run System.Any u v →
      v.step config.toLogicConfig (.acquired i) = some w → w.Rejected i →
      SameMailbox s w gid
      ∧ (∀ other, other ≠ gid → SameMailbox s u other ∧ SameMailbox v w other)
      ∧ SamePermits s u ∧ SamePermits v w
      ∧ ∀ x y spurious, (system P A R E config).Run System.Any u x →
        x.step config.toLogicConfig (.acquire i spurious) = some y →
        (system P A R E config).Run System.Any y v →
        (∀ other, SameMailbox x y other) ∧ SamePermits x y

theorem PastSection.run {config : ValidConfig} {i : Nat} (past : PastSection i s)
    (run : (system P A R E config).Run System.Any s t) : PastSection i t :=
  run.inv (I := PastSection i) (fun _ _ _ before _ taken => before.step (step_sound taken)) past

theorem PastSection.not_acquiring {i m : Nat} {spawnRunner : Bool} {e : Enqueue P A R}
    (past : PastSection i s) (found : s.enqueues[i]? = some e)
    (acquiring : e.phase = .acquiring m spawnRunner) : False := by
  obtain ⟨e', found', ended⟩ := past
  rw [found] at found'
  obtain rfl := Option.some.inj found'
  rw [acquiring] at ended
  cases ended

section Rejections

variable {config : ValidConfig} {u v : Runtime P A R E} {i m : Nat} {spawnRunner : Bool} {e : Enqueue P A R}

/-- One operation of `acquire` grants no permit to a call that is rejected later. -/
theorem acquire_samePermits (reached : (system P A R E config).Reach System.Any s) {spurious : Bool}
    (taken : s.step config.toLogicConfig (.acquire i spurious) = some t)
    (run : (system P A R E config).Run System.Any t v) (found : v.enqueues[i]? = some e)
    (acquiring : e.phase = .acquiring m spawnRunner) {reason : RejectReason}
    (refused : v.Holds i (.acquiring (.rejected reason))) :
    (∀ gid, SameMailbox s t gid) ∧ SamePermits s t := by
  have reachedT : (system P A R E config).Reach System.Any t := reached.step trivial taken
  obtain ⟨before, there, acquired⟩ := Option.bind_eq_some_iff.mp taken
  unfold Runtime.acquire at acquired
  split at acquired
  case h_2 => cases acquired
  case h_1 n spawns isAcquiring =>
    obtain ⟨pool, ticked, rfl⟩ := Option.map_eq_some_iff.mp acquired
    obtain ⟨others, unheld⟩ := AdmissionPool.tick_apart ticked
    refine ⟨fun gid => ⟨rfl, rfl⟩, ?_⟩
    intro id
    by_cases same : i = id
    · subst same
      refine ⟨fun granted => ?_, fun held => absurd held unheld⟩
      cases permit_run reachedT there isAcquiring granted run with
      | inl kept =>
        have still := kept.2.symm.trans refused
        cases still
      | inr past => exact (past.not_acquiring found acquiring).elim
    · simp only [Runtime.Holds, others id same]

theorem leavesNothing (reached : (system P A R E config).Reach System.Any s)
    (found : s.enqueues[i]? = some e) : LeavesNothing config s i e.gid := by
  have owned := (served_reach reached).owned
  intro u locked
  have reachedU : (system P A R E config).Reach System.Any u := reached.step trivial locked
  refine ⟨?_, ?_⟩
  · intro rejected
    obtain ⟨e', reason, found', isRejected⟩ := rejected
    obtain rfl | ⟨n, _, rfl⟩ | ⟨_, rfl⟩ := lock_cases found locked
    · exact ⟨rfl, rfl, rfl⟩
    · simp only [Runtime.setEnqueue, Pool.get_set_self _ found] at found'
      rw [← Option.some.inj found'] at isRejected
      cases isRejected
    · simp only [Runtime.setEnqueue, Pool.get_set_self _ found] at found'
      rw [← Option.some.inj found'] at isRejected
      cases isRejected
  · intro v w run last rejected
    obtain ⟨e', n, spawns, reason, there, acquiring, held, rfl⟩ := rejected_cases last rejected
    have ticks : ∀ x y spurious, (system P A R E config).Run System.Any u x →
        x.step config.toLogicConfig (.acquire i spurious) = some y →
        (system P A R E config).Run System.Any y v → (∀ other, SameMailbox x y other) ∧ SamePermits x y :=
      fun x y spurious first ticked rest =>
        acquire_samePermits (reachedU.run first) ticked rest there acquiring held
    -- the call that comes to its last step is the one that took the lock
    have same : ∀ {phase : EnqueuePhase} {k : Nat} {b : Bool}, phase = .acquiring k b →
        u.enqueues[i]? = some { e with phase := phase } →
        e' = { e with phase := phase } ∧ SameMailbox u v e.gid := by
      intro phase k b isPhase taken
      cases section_run reachedU taken isPhase run with
      | inl inside =>
        have unchanged := there.symm.trans inside.1
        exact ⟨Option.some.inj unchanged, inside.2⟩
      | inr past => exact (past.not_acquiring there acquiring).elim
    obtain rfl | ⟨k, mapped, rfl⟩ | ⟨unmapped, rfl⟩ := lock_cases found locked
    · have past : PastSection i (s.setEnqueue i e (.rejected .gid)) :=
        ⟨_, Pool.get_set_self _ found, rfl⟩
      exact ((past.run run).not_acquiring there acquiring).elim
    · obtain ⟨rfl, inside⟩ := same rfl (Pool.get_set_self _ found)
      cases acquiring
      refine ⟨?_, fun other _ => ⟨⟨rfl, rfl⟩, ⟨rfl, rfl⟩⟩, fun id => Iff.rfl, fun id => Iff.rfl, ticks⟩
      exact ⟨inside.directory, inside.mailbox⟩
    · obtain ⟨rfl, inside⟩ := same rfl (Pool.get_set_self _ found)
      cases acquiring
      refine ⟨?_, ?_, fun id => Iff.rfl, fun id => Iff.rfl, ticks⟩
      · -- the slot that was inserted is gone
        refine ⟨?_, ?_⟩
        · change Function.update v.directory e.gid none e.gid = s.directory e.gid
          rw [Function.update_self, unmapped]
        · change (Function.update v.directory e.gid none e.gid).bind (v.slots[·]?)
            = (s.directory e.gid).bind (s.slots[·]?)
          rw [Function.update_self, unmapped]
          rfl
      · intro other differ
        exact ⟨owned.sameMailbox_new differ rfl rfl, sameMailbox_remove (s := v) differ rfl rfl⟩

end Rejections

end Runtime

end Xkk.Logic
