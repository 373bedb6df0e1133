import Xkk.Logic.Generation

/-! # Mailboxes and their runners

`Desk` is what has happened to the commands of one player, and `Hands` what the
runner of the player has in its hands.  `Desk.Keeps` relates the two: every
accepted command is answered, in the hands of the runner or queued, in the order
in which the commands were accepted.
-/

set_option linter.unusedSectionVars false

namespace Xkk.Logic

open Xkk.Lib

variable {P A R E : Type} [LogicState P]

/-! ## One player -/

/-- The mailbox of a player and the numbers of its commands. -/
structure Desk (P A R : Type) where
  mailbox : Option (KeySlot P A R)
  accepted : List Nat
  started : List Nat
  answered : List Nat
  executed : List Nat
  completed : List Nat

def Desk.queue (d : Desk P A R) : List (Envelope P A R) := d.mailbox.elim [] KeySlot.queue

/-- `unreleased` has been answered, but its permit has not been given back; `pending`
    has not been answered; `charged` counts in the mailbox. -/
structure Hands (P A R : Type) where
  unreleased : List Nat
  pending : List (Envelope P A R)
  charged : List (Envelope P A R)
  ran : List Nat

def Hands.empty : Hands P A R := ⟨[], [], [], []⟩

def RunnerPhase.hands : RunnerPhase P A R E → Hands P A R
  | .serving envelope stage => ⟨[], [envelope], [envelope], if stage.ran then [envelope.id] else []⟩
  | .completing envelope => ⟨[envelope.id], [], [envelope], []⟩
  | .dropping id next | .droppingKib id next => ⟨[id], next.toList, next.toList, []⟩
  | .notifying next => ⟨[], next.toList, next.toList, []⟩
  | .taking | .retiring | .inserting _ | .checking | .leaving | .done => .empty

theorem RunnerPhase.hands_of_not_owns {phase : RunnerPhase P A R E} (left : phase.owns = false) :
    phase.hands = .empty := by
  cases phase with
  | leaving => rfl
  | done => rfl
  | _ => cases left

def kibs (envelopes : List (Envelope P A R)) : Nat :=
  Pool.total (fun envelope => envelope.retainedKib.toNat) envelopes

structure Desk.Keeps (config : LogicConfig) (d : Desk P A R) (h : Hands P A R) : Prop where
  accepted : d.accepted = d.started ++ d.queue.map Envelope.id
  started : d.started = d.answered ++ h.pending.map Envelope.id
  executed : d.executed = d.completed ++ h.ran
  unreleased : ∀ id ∈ h.unreleased, id ∈ d.answered
  calls : ∀ slot ∈ d.mailbox, slot.inflightCalls.toNat = slot.queue.length + h.charged.length
  kib : ∀ slot ∈ d.mailbox, slot.inflightKib.toNat = kibs slot.queue + kibs h.charged
    ∧ slot.inflightKib.toNat ≤ config.maxKibPerGid.toNat

namespace Desk.Keeps

variable {config : LogicConfig} {d : Desk P A R} {h : Hands P A R} {slot : KeySlot P A R}
  {envelope : Envelope P A R} {rest : List (Envelope P A R)}

/-- A new slot has an empty mailbox. -/
theorem opened (keeps : d.Keeps config .empty) (none : d.mailbox = none) (gid : Gid) :
    Desk.Keeps config ({ d with mailbox := some ⟨gid, [], 0, 0⟩ } : Desk P A R) .empty where
  accepted := by
    have accepted := keeps.accepted
    simp only [Desk.queue, none] at accepted
    exact accepted
  started := keeps.started
  executed := keeps.executed
  unreleased := keeps.unreleased
  calls := by
    intro slot member
    obtain rfl := Option.some.inj member
    rfl
  kib := by
    intro slot member
    obtain rfl := Option.some.inj member
    exact ⟨rfl, Nat.zero_le _⟩

/-- An empty mailbox goes with its slot. -/
theorem closed (keeps : d.Keeps config h) (isEmpty : d.queue = []) :
    Desk.Keeps config { d with mailbox := none } h where
  accepted := by
    have accepted := keeps.accepted
    rw [isEmpty] at accepted
    exact accepted
  started := keeps.started
  executed := keeps.executed
  unreleased := keeps.unreleased
  calls := by intro slot member; cases member
  kib := by intro slot member; cases member

/-- The mailbox accepts a command for which it has room. -/
theorem push (envelope : Envelope P A R) (keeps : d.Keeps config h) (mailbox : d.mailbox = some slot)
    (room : Runtime.full config slot envelope.retainedKib = false) :
    Desk.Keeps config
      { d with
        mailbox := some { slot with
          inflightCalls := slot.inflightCalls + 1
          inflightKib := slot.inflightKib + envelope.retainedKib
          queue := slot.queue ++ [envelope] }
        accepted := d.accepted ++ [envelope.id] } h := by
  have calls := keeps.calls slot mailbox
  obtain ⟨kib, bounded⟩ := keeps.kib slot mailbox
  simp only [Runtime.full, ge_iff_le, gt_iff_lt, Bool.or_eq_false_iff, decide_eq_false_iff_not,
    UInt64.le_iff_toNat_le, UInt64.lt_iff_toNat_lt, not_le, not_lt] at room
  obtain ⟨fewer, fits⟩ := room
  rw [UInt64.toNat_sub_of_le _ _ (UInt64.le_iff_toNat_le.mpr bounded)] at fits
  have callsLt := config.maxCallsPerGid.toNat_lt
  have kibLt := config.maxKibPerGid.toNat_lt
  refine { started := keeps.started, executed := keeps.executed, unreleased := keeps.unreleased,
           accepted := ?_, calls := ?_, kib := ?_ }
  · simp [Desk.queue, keeps.accepted, mailbox]
  · intro slot' member
    obtain rfl := Option.some.inj member
    simp only [UInt64.toNat_add, List.length_append, List.length_cons, List.length_nil]
    rw [Nat.mod_eq_of_lt (by simp; omega)]
    simp
    omega
  · intro slot' member
    obtain rfl := Option.some.inj member
    have sum : (slot.inflightKib + envelope.retainedKib).toNat
        = slot.inflightKib.toNat + envelope.retainedKib.toNat := by
      rw [UInt64.toNat_add, Nat.mod_eq_of_lt (by omega)]
    simp only [sum, kibs, Pool.total_append, Pool.total_cons, Pool.total_nil] at kib ⊢
    omega

/-- An idle runner takes the first command of the queue. -/
theorem take (keeps : d.Keeps config .empty) (mailbox : d.mailbox = some slot)
    (queue : slot.queue = envelope :: rest) :
    Desk.Keeps config
      { d with
        mailbox := some { slot with queue := rest }
        started := d.started ++ [envelope.id] } ⟨[], [envelope], [envelope], []⟩ := by
  have calls := keeps.calls slot mailbox
  obtain ⟨kib, bounded⟩ := keeps.kib slot mailbox
  have started := keeps.started
  refine { executed := keeps.executed, unreleased := keeps.unreleased, accepted := ?_, started := ?_,
           calls := ?_, kib := ?_ }
  · simp [Desk.queue, keeps.accepted, mailbox, queue]
  · simpa [Hands.empty] using started
  · intro slot' member
    obtain rfl := Option.some.inj member
    rw [calls, queue]
    rfl
  · intro slot' member
    obtain rfl := Option.some.inj member
    refine ⟨?_, bounded⟩
    rw [kib, queue]
    simp only [kibs, Pool.total_cons, Pool.total_nil, Hands.empty]
    omega

/-- What the mailbox counts after a command was completed. -/
theorem release (keeps : d.Keeps config ⟨[envelope.id], [], [envelope], []⟩)
    (mailbox : d.mailbox = some slot) :
    (slot.release envelope.retainedKib).inflightCalls.toNat = slot.queue.length
    ∧ (slot.release envelope.retainedKib).inflightKib.toNat = kibs slot.queue
    ∧ kibs slot.queue ≤ config.maxKibPerGid.toNat := by
  have calls := keeps.calls slot mailbox
  obtain ⟨kib, bounded⟩ := keeps.kib slot mailbox
  simp only [kibs, Pool.total_cons, Pool.total_nil, List.length_cons, List.length_nil] at calls kib ⊢
  have one : (1 : UInt64) ≤ slot.inflightCalls := by
    rw [UInt64.le_iff_toNat_le]
    simp
    omega
  have enough : envelope.retainedKib ≤ slot.inflightKib := by
    rw [UInt64.le_iff_toNat_le]
    omega
  simp only [KeySlot.release, UInt64.toNat_sub_of_le _ _ one, UInt64.toNat_sub_of_le _ _ enough,
    UInt64.toNat_one]
  omega

/-- The runner goes on with the next command of the queue. -/
theorem completeNext {next : Envelope P A R}
    (keeps : d.Keeps config ⟨[envelope.id], [], [envelope], []⟩)
    (mailbox : d.mailbox = some slot) (queue : slot.queue = next :: rest) :
    Desk.Keeps config
      { d with
        mailbox := some { slot.release envelope.retainedKib with queue := rest }
        started := d.started ++ [next.id] } ⟨[envelope.id], [next], [next], []⟩ := by
  obtain ⟨calls, kib, bounded⟩ := keeps.release mailbox
  have started := keeps.started
  rw [queue] at calls kib bounded
  refine { executed := keeps.executed, unreleased := keeps.unreleased, accepted := ?_, started := ?_,
           calls := ?_, kib := ?_ }
  · simp [Desk.queue, keeps.accepted, mailbox, queue]
  · simpa using started
  · intro slot' member
    obtain rfl := Option.some.inj member
    exact calls
  · intro slot' member
    obtain rfl := Option.some.inj member
    change (slot.release envelope.retainedKib).inflightKib.toNat = _ ∧ _ ≤ _
    rw [kib]
    refine ⟨?_, bounded⟩
    simp only [kibs, Pool.total_cons, Pool.total_nil]
    omega

theorem completeLast (keeps : d.Keeps config ⟨[envelope.id], [], [envelope], []⟩)
    (mailbox : d.mailbox = some slot) :
    Desk.Keeps config { d with mailbox := some (slot.release envelope.retainedKib) }
      ⟨[envelope.id], [], [], []⟩ := by
  obtain ⟨calls, kib, bounded⟩ := keeps.release mailbox
  refine { started := keeps.started, executed := keeps.executed, unreleased := keeps.unreleased,
           accepted := ?_, calls := ?_, kib := ?_ }
  · have accepted := keeps.accepted
    simp only [Desk.queue, mailbox, Option.elim_some] at accepted
    exact accepted
  · intro slot' member
    obtain rfl := Option.some.inj member
    exact calls
  · intro slot' member
    obtain rfl := Option.some.inj member
    rw [kib]
    exact ⟨rfl, bounded⟩

/-- The caller receives its outcome. -/
theorem answer {ran : List Nat} (keeps : d.Keeps config ⟨[], [envelope], [envelope], ran⟩) :
    Desk.Keeps config
      { d with
        answered := d.answered ++ [envelope.id]
        completed := d.completed ++ ran } ⟨[envelope.id], [], [envelope], []⟩ where
  accepted := keeps.accepted
  started := by
    have started := keeps.started
    simpa using started
  executed := by
    have executed := keeps.executed
    simpa using executed
  unreleased := by
    intro id member
    simp only [List.mem_singleton] at member
    simp [member]
  calls := keeps.calls
  kib := keeps.kib

/-- The command of the runner is executed. -/
theorem execute (keeps : d.Keeps config ⟨[], [envelope], [envelope], []⟩) :
    Desk.Keeps config { d with executed := d.executed ++ [envelope.id] }
      ⟨[], [envelope], [envelope], [envelope.id]⟩ where
  accepted := keeps.accepted
  started := keeps.started
  executed := by
    have executed := keeps.executed
    simp only [List.append_nil] at executed
    rw [executed]
  unreleased := keeps.unreleased
  calls := keeps.calls
  kib := keeps.kib

/-- The permit of the last command has been dropped. -/
theorem forget {unreleased : List Nat} (keeps : d.Keeps config { h with unreleased := unreleased }) :
    d.Keeps config { h with unreleased := [] } where
  accepted := keeps.accepted
  started := keeps.started
  executed := keeps.executed
  unreleased := by intro id member; cases member
  calls := keeps.calls
  kib := keeps.kib

end Desk.Keeps

/-! ## All players -/

/-- What an `enqueue` relies on while it works on its slot. -/
def EnqueuePhase.Expects (config : LogicConfig) (retainedKib : UInt64) (d : Desk P A R) :
    EnqueuePhase → Prop
  | .acquiring _ spawnRunner => (spawnRunner = true → d.queue = [])
    ∧ ∃ slot, d.mailbox = some slot ∧ Runtime.full config slot retainedKib = false
  | .counting _ | .spawning _ => d.queue ≠ []
  | .calling | .accepted | .rejected _ => True

theorem EnqueuePhase.expects_of_none {config : LogicConfig} {retainedKib : UInt64} {d : Desk P A R}
    {phase : EnqueuePhase} (away : phase.slot = none) : phase.Expects config retainedKib d := by
  cases phase with
  | acquiring | counting | spawning => cases away
  | _ => trivial

namespace Runtime

variable {config : LogicConfig} {s t : Runtime P A R E}

def desk (s : Runtime P A R E) (gid : Gid) : Desk P A R where
  mailbox := (s.directory gid).bind (s.slots[·]?)
  accepted := s.accepted gid
  started := s.started gid
  answered := (s.outcomes gid).map Prod.fst
  executed := (s.vault.executions gid).map Execution.id
  completed := ((s.outcomes gid).filter (·.2.isCompleted)).map Prod.fst

/-- No runner works for the player. -/
def Unserved (s : Runtime P A R E) (gid : Gid) : Prop :=
  ∀ (i : Nat) r, s.runners[i]? = some r → r.phase.owns = true → r.gid ≠ gid

structure Dispatched (config : LogicConfig) (s : Runtime P A R E) : Prop where
  runner : ∀ (i : Nat) r, s.runners[i]? = some r → r.phase.owns = true →
    (s.desk r.gid).Keeps config r.phase.hands ∧ (r.phase = .taking → (s.desk r.gid).queue ≠ [])
  idle : ∀ gid, s.Unserved gid → (s.desk gid).Keeps config .empty
  enqueue : ∀ (i : Nat) e, s.enqueues[i]? = some e →
    e.phase.Expects config e.retainedKib (s.desk e.gid)

theorem dispatched_initial (config : ValidConfig) :
    Dispatched config.toLogicConfig (Runtime.initial config : Runtime P A R E) where
  runner := by intro i r found; simp [Runtime.initial] at found
  idle := by
    intro gid _
    refine ⟨rfl, rfl, rfl, ?_, ?_, ?_⟩
    · intro id member
      cases member
    · intro slot member
      cases member
    · intro slot member
      cases member
  enqueue := by intro i e found; simp [Runtime.initial] at found

/-! ### The desks that a step leaves alone -/

theorem desk_congr {gid : Gid} (mailbox : (t.desk gid).mailbox = (s.desk gid).mailbox)
    (accepted : t.accepted gid = s.accepted gid) (started : t.started gid = s.started gid)
    (outcomes : t.outcomes gid = s.outcomes gid)
    (executions : t.vault.executions gid = s.vault.executions gid) : t.desk gid = s.desk gid := by
  simp only [Runtime.desk] at mailbox ⊢
  rw [mailbox, accepted, started, outcomes, executions]

theorem Owned.mailbox_gid (owned : Owned config s) {gid : Gid} {slot : KeySlot P A R}
    (mailbox : (s.desk gid).mailbox = some slot) :
    slot.gid = gid ∧ ∃ m, s.directory gid = some m ∧ s.slots[m]? = some slot := by
  obtain ⟨m, mapped, there⟩ := Option.bind_eq_some_iff.mp mailbox
  have known := owned.slots gid m mapped
  rw [List.getElem?_map, there] at known
  exact ⟨Option.some.inj known, m, mapped, there⟩

/-- The mailbox of another player is in another slot. -/
theorem Owned.mailbox_set_ne (owned : Owned config s) {gid other : Gid} {m : Nat}
    (slot : KeySlot P A R) (mapped : s.directory gid = some m) (differ : other ≠ gid) :
    (s.directory other).bind ((s.slots.set m slot)[·]?) = (s.desk other).mailbox := by
  simp only [Runtime.desk]
  cases isSlot : s.directory other with
  | none => rfl
  | some n =>
    simp only [Option.bind_some]
    apply Pool.get_set_ne
    intro same
    subst same
    have mine := owned.slots gid m mapped
    have theirs := owned.slots other m isSlot
    rw [mine] at theirs
    exact differ (Option.some.inj theirs).symm

/-- A slot that is inserted for one player is not the slot of another. -/
theorem Owned.mailbox_append_ne (owned : Owned config s) {gid other : Gid} (slot : KeySlot P A R)
    (entry : Option Nat) (differ : other ≠ gid) :
    (Function.update s.directory gid entry other).bind ((s.slots ++ [slot])[·]?)
      = (s.desk other).mailbox := by
  simp only [Runtime.desk, Function.update_of_ne differ]
  cases mapped : s.directory other with
  | none => rfl
  | some m =>
    have inside := Pool.lt_length (owned.slots other m mapped)
    rw [List.length_map] at inside
    exact List.getElem?_append_left inside

theorem mailbox_set_self {gid : Gid} {m : Nat} {slot : KeySlot P A R} (slot' : KeySlot P A R)
    (mapped : s.directory gid = some m) (there : s.slots[m]? = some slot) :
    (s.directory gid).bind ((s.slots.set m slot')[·]?) = some slot' := by
  rw [mapped]
  exact Pool.get_set_self _ there

/-! ### Steps of a runner -/

/-- While the lock is free nobody but the runner works on the slot. -/
theorem Owned.runner_alone (owned : Owned config s) {i j : Nat} {r : Runner P A R E} {e : Enqueue P A R}
    (isRunner : s.runners[i]? = some r) (owns : r.phase.owns = true)
    (isFree : s.locks (config.directory r.gid) = none) (found : s.enqueues[j]? = some e)
    (same : e.gid = r.gid) : e.phase.slot = none := by
  cases isSlot : e.phase.slot with
  | none => rfl
  | some m =>
    cases EnqueuePhase.locks_or_owns isSlot with
    | inl locks =>
      have held := owned.enqueueLocks j e found locks
      rw [same, isFree] at held
      cases held
    | inr owns' => exact absurd same.symm (owned.enqueue_runner found isRunner owns' owns)

theorem Dispatched.runnerStep (inv : Dispatched config s) (owned : Owned config s) {i : Nat}
    {r r' : Runner P A R E} (isRunner : s.runners[i]? = some r) (owns : r.phase.owns = true)
    (runners : t.runners = s.runners.set i r') (enqueues : t.enqueues = s.enqueues)
    (gid : r'.gid = r.gid) (taken : r'.phase ≠ .taking)
    (others : ∀ gid, gid ≠ r.gid → t.desk gid = s.desk gid)
    (keeps : (t.desk r.gid).Keeps config r'.phase.hands)
    (mailbox : (t.desk r.gid).mailbox = (s.desk r.gid).mailbox
      ∨ s.locks (config.directory r.gid) = none) : Dispatched config t where
  runner := by
    rw [runners]
    intro j other there isOwner
    cases Pool.get_set_cases there with
    | inl same =>
      obtain ⟨rfl, rfl⟩ := same
      rw [gid]
      exact ⟨keeps, fun taking => absurd taking taken⟩
    | inr differ =>
      rw [others]
      · exact inv.runner j other differ.2 isOwner
      · intro same
        exact differ.1 (owned.runner_unique isRunner differ.2 owns isOwner same.symm)
  idle := by
    intro g unserved
    by_cases same : g = r.gid
    · subst same
      have left : r'.phase.owns = false := by
        cases isOwner : r'.phase.owns with
        | false => rfl
        | true =>
          refine absurd gid (unserved i r' ?_ isOwner)
          rw [runners]
          exact Pool.get_set_self _ isRunner
      rw [← RunnerPhase.hands_of_not_owns left]
      exact keeps
    · rw [others g same]
      apply inv.idle
      intro j other there isOwner sameGid
      have differ : i ≠ j := by
        intro equal
        subst equal
        rw [isRunner] at there
        obtain rfl := Option.some.inj there
        exact same sameGid.symm
      refine unserved j other ?_ isOwner sameGid
      rw [runners, Pool.get_set_ne _ differ]
      exact there
  enqueue := by
    rw [enqueues]
    intro j e found
    by_cases same : e.gid = r.gid
    · cases mailbox with
      | inl unchanged =>
        have expects := inv.enqueue j e found
        rw [same] at expects ⊢
        cases phase : e.phase with
        | acquiring m spawnRunner =>
          rw [phase] at expects
          simp only [EnqueuePhase.Expects, Desk.queue] at expects ⊢
          rw [unchanged]
          exact expects
        | counting m | spawning m =>
          rw [phase] at expects
          simp only [EnqueuePhase.Expects, Desk.queue] at expects ⊢
          rw [unchanged]
          exact expects
        | _ => trivial
      | inr isFree => exact EnqueuePhase.expects_of_none (owned.runner_alone isRunner owns isFree found same)
    · rw [others e.gid same]
      exact inv.enqueue j e found

/-- A runner moves on and the desk of its player stays as it is. -/
theorem Dispatched.move (inv : Dispatched config s) (owned : Owned config s) {i : Nat}
    {r r' : Runner P A R E} (isRunner : s.runners[i]? = some r) (owns : r.phase.owns = true)
    (runners : t.runners = s.runners.set i r') (enqueues : t.enqueues = s.enqueues)
    (gid : r'.gid = r.gid) (taken : r'.phase ≠ .taking) (desks : ∀ gid, t.desk gid = s.desk gid)
    (hands : r'.phase.hands = { r.phase.hands with unreleased := r'.phase.hands.unreleased })
    (unreleased : r'.phase.hands.unreleased = r.phase.hands.unreleased
      ∨ r'.phase.hands.unreleased = []) : Dispatched config t := by
  refine inv.runnerStep owned isRunner owns runners enqueues gid taken (fun gid _ => desks gid) ?_
    (.inl (by rw [desks]))
  have keeps := (inv.runner i r isRunner owns).1
  rw [desks, hands]
  cases unreleased with
  | inl same =>
    rw [same]
    exact keeps
  | inr forgotten =>
    rw [forgotten]
    exact keeps.forget

/-- What a runner finds in its mailbox. -/
theorem desk_mailbox {gid : Gid} {m : Nat} {slot : KeySlot P A R} (mapped : s.directory gid = some m)
    (there : s.slots[m]? = some slot) : (s.desk gid).mailbox = some slot := by
  simp only [Runtime.desk, mapped, Option.bind_some, there]

theorem Dispatched.take (inv : Dispatched config s) (owned : Owned config s) {i : Nat}
    {r : Runner P A R E} {slot : KeySlot P A R} {envelope : Envelope P A R}
    {rest : List (Envelope P A R)} (isRunner : s.runners[i]? = some r)
    (either : r.phase = .taking ∨ r.phase = .checking)
    (isFree : s.locks (config.directory r.gid) = none) (mapped : s.directory r.gid = some r.slot)
    (there : s.slots[r.slot]? = some slot) (queue : slot.queue = envelope :: rest) :
    Dispatched config
      ((s.dequeue r.gid r.slot slot envelope rest).setRunner i r (.serving envelope .loading)) := by
  have facts : r.phase.owns = true ∧ r.phase.hands = .empty := by
    cases either with
    | inl taking => rw [taking]; exact ⟨rfl, rfl⟩
    | inr checking => rw [checking]; exact ⟨rfl, rfl⟩
  refine inv.runnerStep owned isRunner facts.1 rfl rfl rfl (by simp) ?_ ?_ (.inr isFree)
  · intro gid differ
    exact desk_congr (owned.mailbox_set_ne _ mapped differ) rfl (Function.update_of_ne differ ..) rfl rfl
  · have keeps := (inv.runner i r isRunner facts.1).1
    rw [facts.2] at keeps
    have next := keeps.take (desk_mailbox mapped there) queue
    refine Eq.mp (congrArg (Desk.Keeps config · _) ?_) next
    simp only [Runtime.desk, Runtime.setRunner, Runtime.dequeue, mailbox_set_self _ mapped there,
      Function.update_self]

theorem Dispatched.completeNext (inv : Dispatched config s) (owned : Owned config s) {i : Nat}
    {r : Runner P A R E} {slot : KeySlot P A R} {envelope next : Envelope P A R}
    {rest : List (Envelope P A R)} (isRunner : s.runners[i]? = some r)
    (completing : r.phase = .completing envelope)
    (isFree : s.locks (config.directory r.gid) = none) (mapped : s.directory r.gid = some r.slot)
    (there : s.slots[r.slot]? = some slot) (queue : slot.queue = next :: rest) :
    Dispatched config ((s.dequeue r.gid r.slot (slot.release envelope.retainedKib) next rest).setRunner
      i r (.dropping envelope.id (some next))) := by
  have owns : r.phase.owns = true := by rw [completing]; rfl
  refine inv.runnerStep owned isRunner owns rfl rfl rfl (by simp) ?_ ?_ (.inr isFree)
  · intro gid differ
    exact desk_congr (owned.mailbox_set_ne _ mapped differ) rfl (Function.update_of_ne differ ..) rfl rfl
  · have keeps := (inv.runner i r isRunner owns).1
    rw [completing] at keeps
    have next := Desk.Keeps.completeNext keeps (desk_mailbox mapped there) queue
    refine Eq.mp (congrArg (Desk.Keeps config · _) ?_) next
    simp only [Runtime.desk, Runtime.setRunner, Runtime.dequeue, mailbox_set_self _ mapped there,
      Function.update_self]

theorem Dispatched.completeLast (inv : Dispatched config s) (owned : Owned config s) {i : Nat}
    {r : Runner P A R E} {slot : KeySlot P A R} {envelope : Envelope P A R}
    (isRunner : s.runners[i]? = some r) (completing : r.phase = .completing envelope)
    (isFree : s.locks (config.directory r.gid) = none) (mapped : s.directory r.gid = some r.slot)
    (there : s.slots[r.slot]? = some slot) :
    Dispatched config ({ s with
      slots := s.slots.set r.slot (slot.release envelope.retainedKib) }.setRunner
      i r (.dropping envelope.id none)) := by
  have owns : r.phase.owns = true := by rw [completing]; rfl
  refine inv.runnerStep owned isRunner owns rfl rfl rfl (by simp) ?_ ?_ (.inr isFree)
  · intro gid differ
    exact desk_congr (owned.mailbox_set_ne _ mapped differ) rfl rfl rfl rfl
  · have keeps := (inv.runner i r isRunner owns).1
    rw [completing] at keeps
    have next := Desk.Keeps.completeLast keeps (desk_mailbox mapped there)
    refine Eq.mp (congrArg (Desk.Keeps config · _) ?_) next
    simp only [Runtime.desk, Runtime.setRunner, mailbox_set_self _ mapped there]

theorem Dispatched.finish (inv : Dispatched config s) (owned : Owned config s) {i : Nat}
    {r : Runner P A R E} {envelope : Envelope P A R} {outcome : Outcome R E}
    (isRunner : s.runners[i]? = some r) (finishing : r.phase = .serving envelope (.finishing outcome)) :
    Dispatched config (s.finish i r envelope outcome) := by
  have owns : r.phase.owns = true := by rw [finishing]; rfl
  refine inv.runnerStep owned isRunner owns rfl rfl rfl (by simp) ?_ ?_ (.inl rfl)
  · intro gid differ
    exact desk_congr rfl rfl rfl (Function.update_of_ne differ ..) rfl
  · have keeps := (inv.runner i r isRunner owns).1
    rw [finishing] at keeps
    have next := Desk.Keeps.answer keeps
    refine Eq.mp (congrArg (Desk.Keeps config · _) ?_) next
    simp only [Runtime.desk, Runtime.finish, Runtime.setRunner, Function.update_self, List.map_append,
      List.filter_append, List.map_cons, List.map_nil]
    cases outcome <;> rfl

/-- One stage of a command; at `ready` it is executed. -/
theorem Dispatched.serve (inv : Dispatched config s) (owned : Owned config s) (located : Located s)
    {i max : Nat} {r : Runner P A R E} {envelope : Envelope P A R} {stage stage' : Stage P A R E}
    {choice : Choice P A E} {vault : Vault P R E} {player : Option Nat}
    (isRunner : s.runners[i]? = some r) (serving : r.phase = .serving envelope stage)
    (served : s.vault.serve max i r.gid envelope r.player stage choice = some (vault, player, stage')) :
    Dispatched config { s with
      vault := vault
      runners := s.runners.set i { r with player := player, phase := .serving envelope stage' } } := by
  have owns : r.phase.owns = true := by rw [serving]; rfl
  have keeps := (inv.runner i r isRunner owns).1
  rw [serving] at keeps
  have unexecuted : ∀ {vault : Vault P R E} {player : Option Nat} {stage' : Stage P A R E},
      vault.executions = s.vault.executions → stage'.ran = stage.ran →
      Dispatched config { s with
        vault := vault
        runners := s.runners.set i { r with player := player, phase := .serving envelope stage' } } := by
    intro vault player stage' executions ran
    refine inv.move owned isRunner owns rfl rfl rfl (by simp) ?_ ?_ ?_
    · intro gid
      exact desk_congr rfl rfl rfl rfl (congrFun executions gid)
    · simp only [serving, RunnerPhase.hands, ran]
    · exact .inr rfl
  obtain ⟨c, cell, isPlayer, rfl, found, served⟩ | ⟨_, rfl, rfl, loaded⟩
    | ⟨state, _, rfl, rfl, rfl, rfl⟩ := Vault.serve_cases served
  · obtain ⟨_, quiet | ⟨permit, logic, rfl, rfl, rfl⟩ | ⟨value, state, wrote, result, rfl, _, _, rfl, rfl⟩⟩ :=
      Vault.serveCell_cases found served
    · exact unexecuted quiet.1.executions quiet.2
    · have mine : cell.gid = r.gid := by
        have known := located.player i r c isRunner isPlayer
        rw [Vault.gids, List.getElem?_map, found] at known
        exact Option.some.inj known
      refine inv.runnerStep owned isRunner owns rfl rfl rfl (by simp) ?_ ?_ (.inl rfl)
      · intro gid differ
        refine desk_congr rfl rfl rfl rfl ?_
        exact Function.update_of_ne (by rw [mine]; exact differ) ..
      · have next := Desk.Keeps.execute keeps
        refine Eq.mp (congrArg (Desk.Keeps config · _) ?_) next
        simp only [Runtime.desk, mine, Function.update_self, List.map_append, List.map_cons, List.map_nil]
    · exact unexecuted (Vault.write_executions ..) rfl
  · obtain ⟨c, resident, rfl, rfl⟩ | ⟨error, rfl, rfl⟩ | ⟨state, _, absent, rfl, rfl⟩ := loaded
    · exact unexecuted rfl rfl
    · exact unexecuted rfl rfl
    · exact unexecuted rfl rfl
  · exact unexecuted rfl rfl

theorem Dispatched.retire (inv : Dispatched config s) (owned : Owned config s) {i : Nat}
    {r : Runner P A R E} {slot : KeySlot P A R} (isRunner : s.runners[i]? = some r)
    (checking : r.phase = .checking) (isFree : s.locks (config.directory r.gid) = none)
    (mapped : s.directory r.gid = some r.slot) (there : s.slots[r.slot]? = some slot)
    (queue : slot.queue = []) :
    Dispatched config { s.setRunner i r .leaving with
      directory := Function.update s.directory r.gid none
      locks := Function.update s.locks (config.directory r.gid) (some (.runner i))
      activeGids := s.activeGids - 1 } := by
  have owns : r.phase.owns = true := by rw [checking]; rfl
  refine inv.runnerStep owned isRunner owns rfl rfl rfl (by simp) ?_ ?_ (.inr isFree)
  · intro gid differ
    refine desk_congr ?_ rfl rfl rfl rfl
    simp only [Runtime.desk, Runtime.setRunner, Function.update_of_ne differ]
  · have keeps := (inv.runner i r isRunner owns).1
    rw [checking] at keeps
    have isEmpty : (s.desk r.gid).queue = [] := by
      rw [Desk.queue, desk_mailbox mapped there]
      exact queue
    have next := keeps.closed isEmpty
    refine Eq.mp (congrArg (Desk.Keeps config · _) ?_) next
    simp only [Runtime.desk, Runtime.setRunner, Function.update_self, Option.bind_none]

/-- A runner that has given up its slot. -/
theorem Dispatched.leave (inv : Dispatched config s) {i : Nat} {r r' : Runner P A R E}
    (isRunner : s.runners[i]? = some r) (left : r.phase.owns = false) (left' : r'.phase.owns = false)
    (runners : t.runners = s.runners.set i r') (enqueues : t.enqueues = s.enqueues)
    (desks : ∀ gid, t.desk gid = s.desk gid) : Dispatched config t where
  runner := by
    rw [runners]
    intro j other there isOwner
    cases Pool.get_set_cases there with
    | inl same =>
      obtain ⟨rfl, rfl⟩ := same
      rw [left'] at isOwner
      cases isOwner
    | inr differ =>
      rw [desks]
      exact inv.runner j other differ.2 isOwner
  idle := by
    intro gid unserved
    rw [desks]
    apply inv.idle
    intro j other there isOwner
    have differ : i ≠ j := by
      intro equal
      subst equal
      rw [isRunner] at there
      obtain rfl := Option.some.inj there
      rw [left] at isOwner
      cases isOwner
    refine unserved j other ?_ isOwner
    rw [runners, Pool.get_set_ne _ differ]
    exact there
  enqueue := by
    rw [enqueues]
    intro j e found
    rw [desks]
    exact inv.enqueue j e found

/-! ### Steps of an `enqueue` -/

/-- An `enqueue` moves on; what it does to its mailbox keeps the commands in order. -/
theorem Dispatched.enqueueStep (inv : Dispatched config s) (owned : Owned config t) {i : Nat}
    {e e' : Enqueue P A R} (found : s.enqueues[i]? = some e)
    (enqueues : t.enqueues = s.enqueues.set i e') (runners : t.runners = s.runners)
    (gid : e'.gid = e.gid) (others : ∀ gid, gid ≠ e.gid → t.desk gid = s.desk gid)
    (expects : e'.phase.Expects config e'.retainedKib (t.desk e.gid))
    (grows : (t.desk e.gid).queue = [] → (s.desk e.gid).queue = [])
    (keeps : ∀ h, (e'.phase.owns = true → h = .empty) → (s.desk e.gid).Keeps config h →
      (t.desk e.gid).Keeps config h)
    (alone : (t.desk e.gid).mailbox = (s.desk e.gid).mailbox
      ∨ ∀ (j : Nat) other, i ≠ j → s.enqueues[j]? = some other → other.gid = e.gid →
        other.phase.locks = false) : Dispatched config t where
  runner := by
    rw [runners]
    intro j r there isOwner
    obtain ⟨kept, nonempty⟩ := inv.runner j r there isOwner
    by_cases same : r.gid = e.gid
    · rw [same] at kept nonempty ⊢
      refine ⟨keeps _ ?_ kept, fun taking isEmpty => nonempty taking (grows isEmpty)⟩
      intro owns
      have moved : t.enqueues[i]? = some e' := by
        rw [enqueues]
        exact Pool.get_set_self _ found
      have stays : t.runners[j]? = some r := by
        rw [runners]
        exact there
      exact absurd (same.trans gid.symm) (owned.enqueue_runner moved stays owns isOwner)
    · rw [others r.gid same]
      exact ⟨kept, nonempty⟩
  idle := by
    intro g unserved
    have before : s.Unserved g := by
      rw [Runtime.Unserved, ← runners]
      exact unserved
    by_cases same : g = e.gid
    · rw [same] at before ⊢
      exact keeps .empty (fun _ => rfl) (inv.idle e.gid before)
    · rw [others g same]
      exact inv.idle g before
  enqueue := by
    rw [enqueues]
    intro j other there
    cases Pool.get_set_cases there with
    | inl same =>
      obtain ⟨rfl, rfl⟩ := same
      rw [gid]
      exact expects
    | inr differ =>
      have expected := inv.enqueue j other differ.2
      by_cases same : other.gid = e.gid
      · rw [same] at expected ⊢
        cases alone with
        | inl unchanged =>
          cases phase : other.phase with
          | acquiring m spawnRunner =>
            rw [phase] at expected
            simp only [EnqueuePhase.Expects, Desk.queue] at expected ⊢
            rw [unchanged]
            exact expected
          | counting m | spawning m =>
            rw [phase] at expected
            exact fun isEmpty => expected (grows isEmpty)
          | _ => trivial
        | inr exclusive =>
          have unlocked := exclusive j other differ.1 differ.2 same
          cases phase : other.phase with
          | acquiring m spawnRunner | counting m =>
            rw [phase] at unlocked
            cases unlocked
          | spawning m =>
            rw [phase] at expected
            exact fun isEmpty => expected (grows isEmpty)
          | _ => trivial
      · rw [others other.gid same]
        exact expected

/-- An `enqueue` moves on and the desk of its player stays as it is. -/
theorem Dispatched.setEnqueue (inv : Dispatched config s) (owned : Owned config t) {i : Nat}
    {e e' : Enqueue P A R} (found : s.enqueues[i]? = some e)
    (enqueues : t.enqueues = s.enqueues.set i e') (runners : t.runners = s.runners)
    (gid : e'.gid = e.gid) (desks : ∀ gid, t.desk gid = s.desk gid)
    (expects : e'.phase.Expects config e'.retainedKib (s.desk e.gid)) : Dispatched config t := by
  refine inv.enqueueStep owned found enqueues runners gid (fun gid _ => desks gid) ?_ ?_ ?_ (.inl ?_)
  · rw [desks]
    exact expects
  · rw [desks]
    exact fun isEmpty => isEmpty
  · rw [desks]
    exact fun _ _ kept => kept
  · rw [desks]

theorem Dispatched.lockNew (inv : Dispatched config s) (owned : Owned config s) {i : Nat}
    {e : Enqueue P A R} (found : s.enqueues[i]? = some e) (calling : e.phase = .calling)
    (isFree : s.locks (config.directory e.gid) = none) (unmapped : s.directory e.gid = none)
    (room : full config (⟨e.gid, [], 0, 0⟩ : KeySlot P A R) e.retainedKib = false) :
    Dispatched config { s.setEnqueue i e (.acquiring s.slots.length true) with
      locks := Function.update s.locks (config.directory e.gid) (some (.enqueue i))
      slots := s.slots ++ [⟨e.gid, [], 0, 0⟩]
      directory := Function.update s.directory e.gid (some s.slots.length) } := by
  have mailbox : (Function.update s.directory e.gid (some s.slots.length) e.gid).bind
      ((s.slots ++ [(⟨e.gid, [], 0, 0⟩ : KeySlot P A R)])[·]?) = some ⟨e.gid, [], 0, 0⟩ := by
    rw [Function.update_self]
    exact Pool.get_append_self ..
  have closed : (s.desk e.gid).mailbox = none := by
    simp only [Runtime.desk, unmapped, Option.bind_none]
  refine inv.enqueueStep (owned.lockNew found calling isFree unmapped) found rfl rfl rfl ?_ ?_ ?_ ?_
    (.inr ?_)
  · intro gid differ
    exact desk_congr (owned.mailbox_append_ne _ _ differ) rfl rfl rfl rfl
  · refine ⟨fun _ => ?_, ⟨e.gid, [], 0, 0⟩, mailbox, room⟩
    simp only [Desk.queue, Runtime.desk, Runtime.setEnqueue, mailbox]
    rfl
  · intro _
    rw [Desk.queue, closed]
    rfl
  · intro h isEmpty kept
    obtain rfl := isEmpty rfl
    have next := kept.opened closed e.gid
    refine Eq.mp (congrArg (Desk.Keeps config · _) ?_) next
    simp only [Runtime.desk, Runtime.setEnqueue, mailbox]
  · intro j other _ there same
    cases locks : other.phase.locks with
    | false => rfl
    | true =>
      have held := owned.enqueueLocks j other there locks
      rw [same, isFree] at held
      cases held

/-- The holder of the lock of a player is the only one who works on its slot under the lock. -/
theorem Owned.lock_alone (owned : Owned config s) {i j : Nat} {e other : Enqueue P A R}
    (found : s.enqueues[i]? = some e) (locks : e.phase.locks = true) (differ : i ≠ j)
    (there : s.enqueues[j]? = some other) (same : other.gid = e.gid) : other.phase.locks = false := by
  cases locks' : other.phase.locks with
  | false => rfl
  | true =>
    have mine := owned.enqueueLocks i e found locks
    have theirs := owned.enqueueLocks j other there locks'
    rw [same, mine] at theirs
    cases theirs
    exact absurd rfl differ

theorem Dispatched.refuseNew (inv : Dispatched config s) (owned : Owned config s) {i m : Nat}
    {e : Enqueue P A R} {reason : RejectReason} (found : s.enqueues[i]? = some e)
    (acquiring : e.phase = .acquiring m true) :
    Dispatched config (Runtime.unlock config (Runtime.setEnqueue
      { s with directory := Function.update s.directory e.gid none } i e (.rejected reason)) e.gid) := by
  have expected := inv.enqueue i e found
  rw [acquiring] at expected
  have isEmpty := expected.1 rfl
  refine inv.enqueueStep (owned.refuseNew found acquiring) found rfl rfl rfl ?_ trivial ?_ ?_ (.inr ?_)
  · intro gid differ
    refine desk_congr ?_ rfl rfl rfl rfl
    simp only [Runtime.desk, Runtime.setEnqueue, Runtime.unlock, Function.update_of_ne differ]
  · intro _
    exact isEmpty
  · intro h _ kept
    have next := kept.closed isEmpty
    refine Eq.mp (congrArg (Desk.Keeps config · _) ?_) next
    simp only [Runtime.desk, Runtime.setEnqueue, Runtime.unlock, Function.update_self, Option.bind_none]
  · intro j other differ there same
    exact owned.lock_alone found (by rw [acquiring]; rfl) differ there same

theorem Dispatched.push (inv : Dispatched config s) (owned : Owned config s) {i m : Nat}
    {spawnRunner : Bool} {e : Enqueue P A R} {slot : KeySlot P A R} {phase : EnqueuePhase}
    (owned' : Owned config t) (found : s.enqueues[i]? = some e)
    (acquiring : e.phase = .acquiring m spawnRunner) (there : s.slots[m]? = some slot)
    (enqueues : t.enqueues = s.enqueues.set i { e with phase := phase }) (runners : t.runners = s.runners)
    (directory : t.directory = s.directory) (slots : t.slots = (s.push i e m slot).slots)
    (accepted : t.accepted = (s.push i e m slot).accepted) (started : t.started = s.started)
    (outcomes : t.outcomes = s.outcomes) (vault : t.vault = s.vault)
    (counting : phase.slot = none ∨ phase = .counting m) : Dispatched config t := by
  have mapped := owned.ofEnqueue i e m found (by rw [acquiring]; rfl)
  have isMailbox := desk_mailbox mapped there
  have expected := inv.enqueue i e found
  rw [acquiring] at expected
  obtain ⟨_, slot', mailbox', room⟩ := expected
  rw [isMailbox] at mailbox'
  obtain rfl := Option.some.inj mailbox'
  have pushed : (t.desk e.gid).mailbox = some { slot with
      inflightCalls := slot.inflightCalls + 1
      inflightKib := slot.inflightKib + e.retainedKib
      queue := slot.queue ++ [⟨i, e.command, e.retainedKib⟩] } := by
    simp only [Runtime.desk, directory, slots, Runtime.push]
    exact mailbox_set_self _ mapped there
  have nonempty : (t.desk e.gid).queue ≠ [] := by
    rw [Desk.queue, pushed]
    simp
  refine inv.enqueueStep owned' found enqueues runners rfl ?_ ?_ ?_ ?_ (.inr ?_)
  · intro gid differ
    refine desk_congr ?_ ?_ (by rw [started]) (by rw [outcomes]) (by rw [vault])
    · simp only [Runtime.desk, directory, slots, Runtime.push]
      exact owned.mailbox_set_ne _ mapped differ
    · rw [accepted]
      exact Function.update_of_ne differ ..
  · cases counting with
    | inl away => exact EnqueuePhase.expects_of_none away
    | inr isCounting =>
      rw [isCounting]
      exact nonempty
  · intro isEmpty
    exact absurd isEmpty nonempty
  · intro h _ kept
    have next := Desk.Keeps.push ⟨i, e.command, e.retainedKib⟩ kept isMailbox room
    refine Eq.mp (congrArg (Desk.Keeps config · _) ?_) next
    have isAccepted : t.accepted e.gid = s.accepted e.gid ++ [i] := by
      rw [accepted]
      exact Function.update_self ..
    simp only [Runtime.desk] at pushed ⊢
    simp only [pushed, isAccepted, started, outcomes, vault]
  · intro j other differ there same
    exact owned.lock_alone found (by rw [acquiring]; rfl) differ there same

theorem Dispatched.spawn (inv : Dispatched config s) (owned : Owned config s) {i m : Nat}
    {e : Enqueue P A R} (found : s.enqueues[i]? = some e) (spawning : e.phase = .spawning m) :
    Dispatched config { s.setEnqueue i e .accepted with
      runners := s.runners ++ [⟨e.gid, m, none, .taking⟩] } := by
  have owns : e.phase.owns = true := by rw [spawning]; rfl
  refine { runner := ?_, idle := ?_, enqueue := ?_ }
  · intro j r there isOwner
    cases Pool.get_append_cases there with
    | inl new =>
      obtain ⟨_, rfl⟩ := new
      have expected := inv.enqueue i e found
      rw [spawning] at expected
      refine ⟨inv.idle e.gid ?_, fun _ => expected⟩
      intro j r there isOwner
      exact owned.enqueue_runner found there owns isOwner
    | inr old => exact inv.runner j r old.2 isOwner
  · intro gid unserved
    apply inv.idle gid
    intro j r there isOwner
    exact unserved j r (Pool.get_append_of_some _ there) isOwner
  · intro j other there
    cases Pool.get_set_cases there with
    | inl same =>
      obtain ⟨rfl, rfl⟩ := same
      trivial
    | inr differ => exact inv.enqueue j other differ.2

theorem Dispatched.frame (inv : Dispatched config s) (enqueues : t.enqueues = s.enqueues)
    (runners : t.runners = s.runners) (desks : ∀ gid, t.desk gid = s.desk gid) : Dispatched config t where
  runner := by
    rw [runners]
    intro i r there isOwner
    rw [desks]
    exact inv.runner i r there isOwner
  idle := by
    intro gid unserved
    rw [desks]
    apply inv.idle gid
    rw [Runtime.Unserved, ← runners]
    exact unserved
  enqueue := by
    rw [enqueues]
    intro i e found
    rw [desks]
    exact inv.enqueue i e found

theorem Dispatched.tryUse (inv : Dispatched config s) {e : Enqueue P A R} (calling : e.phase = .calling)
    {pool : AdmissionPool.State} :
    Dispatched config { s with pool := pool, enqueues := s.enqueues ++ [e] } where
  runner := inv.runner
  idle := inv.idle
  enqueue := by
    intro i other there
    cases Pool.get_append_cases there with
    | inl new =>
      obtain ⟨_, rfl⟩ := new
      rw [calling]
      trivial
    | inr old => exact inv.enqueue i other old.2

/-! ### All steps -/

theorem Dispatched.step (inv : Dispatched config s) (owned : Owned config s) (located : Located s)
    (taken : Step config s t) : Dispatched config t := by
  have owned' := owned.step taken
  cases taken with
  | tryUse => exact inv.tryUse rfl
  | full found calling => exact inv.setEnqueue owned' found rfl rfl rfl (fun _ => rfl) trivial
  | @lock i m e slot found calling isFree mapped there room =>
    refine inv.setEnqueue owned' found rfl rfl rfl (fun _ => rfl) ?_
    exact ⟨fun never => (by cases never), slot, desk_mailbox mapped there, room⟩
  | lockNew found calling isFree unmapped room => exact inv.lockNew owned found calling isFree unmapped room
  | @push i m spawnRunner e slot holder found acquiring isHolder granted there =>
    cases spawnRunner with
    | true =>
      exact inv.push owned owned' found acquiring there rfl rfl rfl rfl rfl rfl rfl rfl (.inr rfl)
    | false =>
      exact inv.push owned owned' found acquiring there rfl rfl rfl rfl rfl rfl rfl rfl (.inl rfl)
  | @refuse i m spawnRunner e reason holder found acquiring =>
    cases spawnRunner with
    | true => exact inv.refuseNew owned found acquiring
    | false => exact inv.setEnqueue owned' found rfl rfl rfl (fun _ => rfl) trivial
  | @count i m e found counting =>
    refine inv.setEnqueue owned' found rfl rfl rfl (fun _ => rfl) ?_
    have expected := inv.enqueue i e found
    rw [counting] at expected
    exact expected
  | spawn found spawning => exact inv.spawn owned found spawning
  | take isRunner either isFree mapped there queue =>
    exact inv.take owned isRunner either isFree mapped there queue
  | serve isRunner serving served => exact inv.serve owned located isRunner serving served
  | finish isRunner finishing => exact inv.finish owned isRunner finishing
  | completeNext isRunner completing isFree mapped there queue =>
    exact inv.completeNext owned isRunner completing isFree mapped there queue
  | completeLast isRunner completing isFree mapped there =>
    exact inv.completeLast owned isRunner completing isFree mapped there
  | drop isRunner dropping =>
    refine inv.move owned isRunner (by rw [dropping]; rfl) rfl rfl rfl (by simp) (fun _ => rfl) ?_ (.inl ?_)
    · rw [dropping]
      rfl
    · rw [dropping]
      rfl
  | dropKib isRunner dropping =>
    refine inv.move owned isRunner (by rw [dropping]; rfl) rfl rfl rfl (by simp) (fun _ => rfl) ?_ (.inr rfl)
    rw [dropping]
    rfl
  | notifyNext isRunner notifying =>
    refine inv.move owned isRunner (by rw [notifying]; rfl) rfl rfl rfl (by simp) (fun _ => rfl) ?_ (.inr rfl)
    rw [notifying]
    rfl
  | notifyLast isRunner notifying =>
    refine inv.move owned isRunner (by rw [notifying]; rfl) rfl rfl rfl (by simp) (fun _ => rfl) ?_ (.inr rfl)
    rw [notifying]
    rfl
  | peek isRunner retiring =>
    refine inv.move owned isRunner (by rw [retiring]; rfl) rfl rfl rfl (by simp) (fun _ => rfl) ?_ (.inr rfl)
    rw [retiring]
    rfl
  | peekNone isRunner retiring =>
    refine inv.move owned isRunner (by rw [retiring]; rfl) rfl rfl rfl (by simp) (fun _ => rfl) ?_ (.inr rfl)
    rw [retiring]
    rfl
  | insert ok isRunner inserting =>
    refine inv.move owned isRunner (by rw [inserting]; rfl) rfl rfl rfl (by simp) ?_ ?_ (.inr rfl)
    · intro gid
      refine desk_congr rfl rfl rfl rfl ?_
      simp only [Vault.setResident]
      split <;> rfl
    · rw [inserting]
      rfl
  | retire isRunner checking isFree mapped there queue =>
    exact inv.retire owned isRunner checking isFree mapped there queue
  | leave isRunner leaving =>
    exact inv.leave isRunner (by rw [leaving]; rfl) rfl rfl rfl (fun _ => rfl)
  | startSaver started =>
    have quiet := Vault.startSaver_quiet started
    exact inv.frame rfl rfl (fun gid => desk_congr rfl rfl rfl rfl (congrFun quiet.executions gid))
  | save isSaver saved =>
    refine inv.frame rfl rfl (fun gid => desk_congr rfl rfl rfl rfl ?_)
    obtain quiet | ⟨c, todo, dirty, cell, state, wrote, result, _, _, found, rfl⟩ := Vault.save_cases saved
    · exact congrFun quiet.executions gid
    · exact congrFun (s.vault.write_executions cell.gid cell.state wrote) gid
  | flush found flushing started =>
    have quiet := Vault.flush_quiet started
    exact inv.frame rfl rfl (fun gid => desk_congr rfl rfl rfl rfl (congrFun quiet.executions gid))
  | _ => exact inv.frame rfl rfl (fun _ => rfl)

end Runtime

end Xkk.Logic
