import Xkk.Logic.Steps

/-! # Who owns a directory slot

A slot belongs to the `enqueue` that inserted it until its runner is spawned, and
to the runner until it removes the slot.  `Owned` counts the owners of each
player: one when the directory has a slot for it, none otherwise.
-/

set_option linter.unusedSectionVars false

namespace Xkk.Logic

open Xkk.Lib

variable {P A R E : Type} [LogicState P]

/-- The slot that an `enqueue` works on. -/
def EnqueuePhase.slot : EnqueuePhase → Option Nat
  | .acquiring m _ | .counting m | .spawning m => some m
  | .calling | .accepted | .rejected _ => none

/-- The runner of the slot is still to be spawned by this `enqueue`. -/
def EnqueuePhase.owns : EnqueuePhase → Bool
  | .acquiring _ spawnRunner => spawnRunner
  | .counting _ | .spawning _ => true
  | .calling | .accepted | .rejected _ => false

def EnqueuePhase.locks : EnqueuePhase → Bool
  | .acquiring _ _ | .counting _ => true
  | .calling | .spawning _ | .accepted | .rejected _ => false

/-- The slot of the runner is in the directory. -/
def RunnerPhase.owns : RunnerPhase P A R E → Bool
  | .leaving | .done => false
  | _ => true

def RunnerPhase.alive : RunnerPhase P A R E → Bool
  | .done => false
  | _ => true

/-- The slot was removed and the lock is still held. -/
def RunnerPhase.leaves : RunnerPhase P A R E → Bool
  | .leaving => true
  | _ => false

def Enqueue.owner (gid : Gid) (e : Enqueue P A R) : Nat := if e.phase.owns ∧ e.gid = gid then 1 else 0

def Runner.owner (gid : Gid) (r : Runner P A R E) : Nat := if r.phase.owns ∧ r.gid = gid then 1 else 0

namespace Runtime

variable {config : LogicConfig} {s t : Runtime P A R E}

/-- The number of owners that the slots of a player have. -/
def owners (s : Runtime P A R E) (gid : Gid) : Nat :=
  Pool.total (Enqueue.owner gid) s.enqueues + Pool.total (Runner.owner gid) s.runners

structure Owned (config : LogicConfig) (s : Runtime P A R E) : Prop where
  slots : ∀ gid m, s.directory gid = some m → (s.slots.map KeySlot.gid)[m]? = some gid
  owners : ∀ gid, s.owners gid = if (s.directory gid).isSome then 1 else 0
  ofEnqueue : ∀ (i : Nat) e m, s.enqueues[i]? = some e → e.phase.slot = some m →
    s.directory e.gid = some m
  ofRunner : ∀ (i : Nat) r, s.runners[i]? = some r → r.phase.owns = true →
    s.directory r.gid = some r.slot
  enqueueLocks : ∀ (i : Nat) e, s.enqueues[i]? = some e → e.phase.locks = true →
    s.locks (config.directory e.gid) = some (.enqueue i)
  -- while the lock is held nobody inserts a new slot
  runnerLocks : ∀ (i : Nat) r, s.runners[i]? = some r → r.phase.leaves = true →
    s.locks (config.directory r.gid) = some (.runner i) ∧ s.directory r.gid = none

theorem owned_initial (config : ValidConfig) :
    Owned config.toLogicConfig (Runtime.initial config : Runtime P A R E) where
  slots := by intro gid m mapped; cases mapped
  owners := by intro gid; rfl
  ofEnqueue := by intro i e m found; simp [Runtime.initial] at found
  ofRunner := by intro i r found; simp [Runtime.initial] at found
  enqueueLocks := by intro i e found; simp [Runtime.initial] at found
  runnerLocks := by intro i r found; simp [Runtime.initial] at found

/-! ## One owner -/

theorem Enqueue.owner_self {e : Enqueue P A R} (owns : e.phase.owns = true) : e.owner e.gid = 1 := by
  simp [Enqueue.owner, owns]

theorem Runner.owner_self {r : Runner P A R E} (owns : r.phase.owns = true) : r.owner r.gid = 1 := by
  simp [Runner.owner, owns]

theorem Owned.owners_le (inv : Owned config s) (gid : Gid) : s.owners gid ≤ 1 := by
  rw [inv.owners gid]
  split <;> omega

/-- A slot that is still to be spawned has no runner. -/
theorem Owned.enqueue_runner (inv : Owned config s) {i j : Nat} {e : Enqueue P A R}
    {r : Runner P A R E} (found : s.enqueues[i]? = some e) (isRunner : s.runners[j]? = some r)
    (owns : e.phase.owns = true) (owns' : r.phase.owns = true) : r.gid ≠ e.gid := by
  intro same
  have first := Pool.weight_le_total (Enqueue.owner e.gid) found
  have second := Pool.weight_le_total (Runner.owner e.gid) isRunner
  rw [Enqueue.owner_self owns] at first
  rw [← same, Runner.owner_self owns', same] at second
  have atMost := inv.owners_le e.gid
  simp only [Runtime.owners] at atMost
  omega

theorem Owned.runner_unique (inv : Owned config s) {i j : Nat} {r r' : Runner P A R E}
    (first : s.runners[i]? = some r) (second : s.runners[j]? = some r') (owns : r.phase.owns = true)
    (owns' : r'.phase.owns = true) (same : r.gid = r'.gid) : i = j := by
  apply Decidable.byContradiction
  intro differ
  have both := Pool.weights_le_total (Runner.owner r.gid) first second differ
  rw [Runner.owner_self owns, same, Runner.owner_self owns'] at both
  have atMost := inv.owners_le r'.gid
  simp only [Runtime.owners] at atMost
  omega

/-- A player has one runner. -/
theorem Owned.runner_eq (inv : Owned config s) {i j : Nat} {r r' : Runner P A R E}
    (first : s.runners[i]? = some r) (second : s.runners[j]? = some r') (owns : r.phase.owns = true)
    (owns' : r'.phase.owns = true) (same : r.gid = r'.gid) : i = j ∧ r = r' := by
  obtain rfl := inv.runner_unique first second owns owns' same
  rw [first] at second
  exact ⟨rfl, Option.some.inj second⟩

theorem Owned.enqueue_unique (inv : Owned config s) {i j : Nat} {e e' : Enqueue P A R}
    (first : s.enqueues[i]? = some e) (second : s.enqueues[j]? = some e') (owns : e.phase.owns = true)
    (owns' : e'.phase.owns = true) (same : e.gid = e'.gid) : i = j := by
  apply Decidable.byContradiction
  intro differ
  have both := Pool.weights_le_total (Enqueue.owner e.gid) first second differ
  rw [Enqueue.owner_self owns, same, Enqueue.owner_self owns'] at both
  have atMost := inv.owners_le e'.gid
  simp only [Runtime.owners] at atMost
  omega

/-- At most one runner of a player is alive. -/
theorem Owned.alive_unique (inv : Owned config s) {i j : Nat} {r r' : Runner P A R E}
    (first : s.runners[i]? = some r) (second : s.runners[j]? = some r') (alive : r.phase.alive = true)
    (alive' : r'.phase.alive = true) (same : r.gid = r'.gid) : i = j := by
  have either : ∀ {phase : RunnerPhase P A R E}, phase.alive = true →
      phase.owns = true ∨ phase.leaves = true := by
    intro phase isAlive
    cases phase with
    | done => cases isAlive
    | leaving => exact .inr rfl
    | _ => exact .inl rfl
  cases either alive with
  | inl owns =>
    cases either alive' with
    | inl owns' => exact inv.runner_unique first second owns owns' same
    | inr leaves' =>
      have mapped := inv.ofRunner i r first owns
      rw [same, (inv.runnerLocks j r' second leaves').2] at mapped
      cases mapped
  | inr leaves =>
    cases either alive' with
    | inl owns' =>
      have mapped := inv.ofRunner j r' second owns'
      rw [← same, (inv.runnerLocks i r first leaves).2] at mapped
      cases mapped
    | inr leaves' =>
      have mine := (inv.runnerLocks i r first leaves).1
      have other := (inv.runnerLocks j r' second leaves').1
      rw [same, other] at mine
      cases mine
      rfl

/-! ## Locks and entries -/

section Entries

variable {α β : Type} [DecidableEq α] {f : α → Option β} {a b : α} {x y : β}

/-- What is held stays held when something free is taken. -/
theorem held_of_take (isFree : f a = none) (held : f b = some y) : Function.update f a (some x) b = some y := by
  rw [Function.update_of_ne]
  · exact held
  · intro same
    rw [same, isFree] at held
    cases held

/-- What others hold stays held when something is released. -/
theorem held_of_release (mine : f a = some x) (held : f b = some y) (differ : y ≠ x) :
    Function.update f a none b = some y := by
  rw [Function.update_of_ne]
  · exact held
  · intro same
    rw [same, mine] at held
    exact differ (Option.some.inj held).symm

theorem of_removed (found : Function.update f a none b = some y) : f b = some y := by
  by_cases same : b = a
  · rw [same, Function.update_self] at found
    cases found
  · rw [Function.update_of_ne same] at found
    exact found

theorem removed_of_none (missing : f b = none) : Function.update f a none b = none := by
  by_cases same : b = a
  · rw [same, Function.update_self]
  · rw [Function.update_of_ne same]
    exact missing

end Entries

/-- The owner of a slot goes with its entry. -/
theorem Owned.owners_remove (inv : Owned config s) {gid g : Gid} {m rest : Nat}
    (mapped : s.directory gid = some m) (left : rest + (if gid = g then 1 else 0) = s.owners g) :
    rest = if (Function.update s.directory gid none g).isSome then 1 else 0 := by
  have count := inv.owners g
  by_cases same : gid = g
  · subst same
    rw [mapped] at count
    rw [Function.update_self]
    simp only [Option.isSome_some, if_true] at count left
    simp only [Option.isSome_none, Bool.false_eq_true, if_false]
    omega
  · rw [if_neg same] at left
    rw [Function.update_of_ne (Ne.symm same), ← count]
    omega

/-! ## Steps of `enqueue` -/

theorem EnqueuePhase.locks_or_owns {phase : EnqueuePhase} {m : Nat} (isSlot : phase.slot = some m) :
    phase.locks = true ∨ phase.owns = true := by
  cases phase with
  | acquiring => exact .inl rfl
  | counting => exact .inl rfl
  | spawning => exact .inr rfl
  | calling | accepted | rejected => cases isSlot

theorem owners_setEnqueue {i : Nat} {e : Enqueue P A R} (found : s.enqueues[i]? = some e)
    (phase : EnqueuePhase) (gid : Gid) :
    (s.setEnqueue i e phase).owners gid + e.owner gid
      = s.owners gid + Enqueue.owner gid { e with phase := phase } := by
  have total := Pool.total_set (Enqueue.owner gid) { e with phase := phase } found
  simp only [Runtime.owners, Runtime.setEnqueue]
  omega

/-- An `enqueue` moves on; its lock may be released. -/
theorem Owned.setEnqueue (inv : Owned config s) {i : Nat} {e : Enqueue P A R}
    (found : s.enqueues[i]? = some e) (phase : EnqueuePhase) (owns : phase.owns = e.phase.owns)
    (slot : ∀ m, phase.slot = some m → e.phase.slot = some m)
    (locks : phase.locks = true → t.locks = s.locks ∧ e.phase.locks = true)
    (enqueues : t.enqueues = s.enqueues.set i { e with phase := phase })
    (directory : t.directory = s.directory) (runners : t.runners = s.runners)
    (slots : t.slots.map KeySlot.gid = s.slots.map KeySlot.gid)
    (lock : t.locks = s.locks ∨ (e.phase.locks = true ∧
      t.locks = Function.update s.locks (config.directory e.gid) none)) : Owned config t := by
  have lockOf : ∀ shard holder, s.locks shard = some holder → holder ≠ .enqueue i →
      t.locks shard = some holder := by
    intro shard holder held other
    cases lock with
    | inl same =>
      rw [same]
      exact held
    | inr released =>
      obtain ⟨mine, released⟩ := released
      rw [released]
      exact held_of_release (inv.enqueueLocks i e found mine) held other
  refine { slots := ?_, owners := ?_, ofEnqueue := ?_, ofRunner := ?_, enqueueLocks := ?_, runnerLocks := ?_ }
  · rw [directory, slots]
    exact inv.slots
  · intro gid
    have moved := owners_setEnqueue found phase gid
    have same : Enqueue.owner gid { e with phase := phase } = e.owner gid := by
      simp only [Enqueue.owner, owns]
    have unchanged : t.owners gid = (s.setEnqueue i e phase).owners gid := by
      simp only [Runtime.owners, Runtime.setEnqueue, enqueues, runners]
    rw [directory, unchanged, ← inv.owners gid]
    omega
  · rw [enqueues, directory]
    intro j other m there isSlot
    cases Pool.get_set_cases there with
    | inl same =>
      obtain ⟨rfl, rfl⟩ := same
      exact inv.ofEnqueue i e m found (slot m isSlot)
    | inr differ => exact inv.ofEnqueue j other m differ.2 isSlot
  · rw [runners, directory]
    exact inv.ofRunner
  · rw [enqueues]
    intro j other there isLock
    cases Pool.get_set_cases there with
    | inl same =>
      obtain ⟨rfl, rfl⟩ := same
      obtain ⟨keeps, was⟩ := locks isLock
      rw [keeps]
      exact inv.enqueueLocks i e found was
    | inr differ =>
      refine lockOf _ _ (inv.enqueueLocks j other differ.2 isLock) ?_
      intro same
      cases same
      exact differ.1 rfl
  · rw [runners, directory]
    intro j r there leaves
    obtain ⟨held, gone⟩ := inv.runnerLocks j r there leaves
    exact ⟨lockOf _ _ held (by simp), gone⟩

theorem Owned.lock (inv : Owned config s) {i m : Nat} {e : Enqueue P A R}
    (found : s.enqueues[i]? = some e) (calling : e.phase = .calling)
    (isFree : s.locks (config.directory e.gid) = none) (mapped : s.directory e.gid = some m) :
    Owned config { s.setEnqueue i e (.acquiring m false) with
      locks := Function.update s.locks (config.directory e.gid) (some (.enqueue i)) } := by
  refine { inv with owners := ?_, ofEnqueue := ?_, enqueueLocks := ?_, runnerLocks := ?_ }
  · intro gid
    have moved := owners_setEnqueue found (.acquiring m false) gid
    have neither : e.owner gid = 0 ∧ Enqueue.owner gid { e with phase := .acquiring m false } = 0 := by
      simp [Enqueue.owner, calling, EnqueuePhase.owns]
    refine Eq.trans ?_ (inv.owners gid)
    change (s.setEnqueue i e (.acquiring m false)).owners gid = s.owners gid
    omega
  · intro j other m' there isSlot
    cases Pool.get_set_cases there with
    | inl same =>
      obtain ⟨rfl, rfl⟩ := same
      cases isSlot
      exact mapped
    | inr differ => exact inv.ofEnqueue j other m' differ.2 isSlot
  · intro j other there isLock
    cases Pool.get_set_cases there with
    | inl same =>
      obtain ⟨rfl, rfl⟩ := same
      exact Function.update_self ..
    | inr differ => exact held_of_take isFree (inv.enqueueLocks j other differ.2 isLock)
  · intro j r there leaves
    obtain ⟨held, gone⟩ := inv.runnerLocks j r there leaves
    exact ⟨held_of_take isFree held, gone⟩

/-- The first command of a player inserts its slot. -/
theorem Owned.lockNew (inv : Owned config s) {i : Nat} {e : Enqueue P A R}
    (found : s.enqueues[i]? = some e) (calling : e.phase = .calling)
    (isFree : s.locks (config.directory e.gid) = none) (unmapped : s.directory e.gid = none) :
    Owned config { s.setEnqueue i e (.acquiring s.slots.length true) with
      locks := Function.update s.locks (config.directory e.gid) (some (.enqueue i))
      slots := s.slots ++ [⟨e.gid, [], 0, 0⟩]
      directory := Function.update s.directory e.gid (some s.slots.length) } := by
  refine { slots := ?_, owners := ?_, ofEnqueue := ?_, ofRunner := ?_, enqueueLocks := ?_, runnerLocks := ?_ }
  · intro gid m mapped
    change ((s.slots ++ [(⟨e.gid, [], 0, 0⟩ : KeySlot P A R)]).map KeySlot.gid)[m]? = some gid
    rw [List.map_append]
    by_cases same : gid = e.gid
    · subst same
      change Function.update s.directory _ _ _ = _ at mapped
      rw [Function.update_self] at mapped
      obtain rfl := Option.some.inj mapped
      simp
    · change Function.update s.directory _ _ _ = _ at mapped
      rw [Function.update_of_ne same] at mapped
      exact Pool.get_append_of_some _ (inv.slots gid m mapped)
  · intro gid
    have moved := owners_setEnqueue found (.acquiring s.slots.length true) gid
    have before : e.owner gid = 0 := by simp [Enqueue.owner, calling, EnqueuePhase.owns]
    have count := inv.owners gid
    change (s.setEnqueue i e (.acquiring s.slots.length true)).owners gid
      = if (Function.update s.directory e.gid (some s.slots.length) gid).isSome then 1 else 0
    by_cases same : gid = e.gid
    · subst same
      have after : Enqueue.owner e.gid { e with phase := .acquiring s.slots.length true } = 1 := by
        simp [Enqueue.owner, EnqueuePhase.owns]
      rw [unmapped] at count
      rw [Function.update_self]
      simp only [Option.isSome_none, Bool.false_eq_true, if_false] at count
      simp only [Option.isSome_some, if_true]
      omega
    · have after : Enqueue.owner gid { e with phase := .acquiring s.slots.length true } = 0 := by
        simp [Enqueue.owner, Ne.symm same]
      rw [Function.update_of_ne same, ← count]
      omega
  · intro j other m there isSlot
    cases Pool.get_set_cases there with
    | inl same =>
      obtain ⟨rfl, rfl⟩ := same
      cases isSlot
      exact Function.update_self ..
    | inr differ => exact held_of_take unmapped (inv.ofEnqueue j other m differ.2 isSlot)
  · intro j r there owns
    exact held_of_take unmapped (inv.ofRunner j r there owns)
  · intro j other there isLock
    cases Pool.get_set_cases there with
    | inl same =>
      obtain ⟨rfl, rfl⟩ := same
      exact Function.update_self ..
    | inr differ => exact held_of_take isFree (inv.enqueueLocks j other differ.2 isLock)
  · intro j r there leaves
    obtain ⟨held, gone⟩ := inv.runnerLocks j r there leaves
    refine ⟨held_of_take isFree held, ?_⟩
    change Function.update s.directory _ _ _ = _
    rw [Function.update_of_ne]
    · exact gone
    · intro same
      rw [same, isFree] at held
      cases held

/-- The owner that holds the lock removes the slot: nobody else refers to it. -/
theorem Owned.enqueue_alone (inv : Owned config s) {i j m : Nat} {e other : Enqueue P A R}
    (found : s.enqueues[i]? = some e) (locks : e.phase.locks = true) (owns : e.phase.owns = true)
    (there : s.enqueues[j]? = some other) (isSlot : other.phase.slot = some m)
    (same : other.gid = e.gid) : i = j := by
  cases EnqueuePhase.locks_or_owns isSlot with
  | inl locks' =>
    have mine := inv.enqueueLocks i e found locks
    have theirs := inv.enqueueLocks j other there locks'
    rw [same, mine] at theirs
    cases theirs
    rfl
  | inr owns' => exact inv.enqueue_unique found there owns owns' same.symm

theorem Owned.refuseNew (inv : Owned config s) {i m : Nat} {e : Enqueue P A R}
    {reason : RejectReason} (found : s.enqueues[i]? = some e) (acquiring : e.phase = .acquiring m true) :
    Owned config (Runtime.unlock config (Runtime.setEnqueue
      { s with directory := Function.update s.directory e.gid none } i e (.rejected reason)) e.gid) := by
  have locks : e.phase.locks = true := by rw [acquiring]; rfl
  have owns : e.phase.owns = true := by rw [acquiring]; rfl
  have mine := inv.enqueueLocks i e found locks
  have mapped := inv.ofEnqueue i e m found (by rw [acquiring]; rfl)
  refine { slots := ?_, owners := ?_, ofEnqueue := ?_, ofRunner := ?_, enqueueLocks := ?_, runnerLocks := ?_ }
  · intro gid m' isMapped
    exact inv.slots gid m' (of_removed isMapped)
  · intro gid
    have moved := owners_setEnqueue found (.rejected reason) gid
    have before : e.owner gid = if e.gid = gid then 1 else 0 := by simp [Enqueue.owner, owns]
    have after : Enqueue.owner gid { e with phase := .rejected reason } = 0 := by
      simp [Enqueue.owner, EnqueuePhase.owns]
    rw [before, after] at moved
    exact inv.owners_remove mapped moved
  · intro j other m' there isSlot
    cases Pool.get_set_cases there with
    | inl same =>
      obtain ⟨rfl, rfl⟩ := same
      cases isSlot
    | inr differ =>
      change Function.update s.directory _ _ _ = _
      rw [Function.update_of_ne]
      · exact inv.ofEnqueue j other m' differ.2 isSlot
      · intro same
        exact differ.1 (inv.enqueue_alone found locks owns differ.2 isSlot same)
  · intro j r there owns'
    change Function.update s.directory _ _ _ = _
    rw [Function.update_of_ne (inv.enqueue_runner found there owns owns')]
    exact inv.ofRunner j r there owns'
  · intro j other there isLock
    cases Pool.get_set_cases there with
    | inl same =>
      obtain ⟨rfl, rfl⟩ := same
      cases isLock
    | inr differ =>
      refine held_of_release mine (inv.enqueueLocks j other differ.2 isLock) ?_
      intro same
      cases same
      exact differ.1 rfl
  · intro j r there leaves
    obtain ⟨held, gone⟩ := inv.runnerLocks j r there leaves
    exact ⟨held_of_release mine held (by simp), removed_of_none gone⟩

/-- The slot passes from its `enqueue` to its runner. -/
theorem Owned.spawn (inv : Owned config s) {i m : Nat} {e : Enqueue P A R}
    (found : s.enqueues[i]? = some e) (spawning : e.phase = .spawning m) :
    Owned config { s.setEnqueue i e .accepted with
      runners := s.runners ++ [⟨e.gid, m, none, .taking⟩] } := by
  refine { inv with owners := ?_, ofEnqueue := ?_, ofRunner := ?_, enqueueLocks := ?_, runnerLocks := ?_ }
  · intro gid
    have moved := owners_setEnqueue found .accepted gid
    have handed : Enqueue.owner gid { e with phase := .accepted }
          + Runner.owner gid (⟨e.gid, m, none, .taking⟩ : Runner P A R E) = e.owner gid := by
      simp [Enqueue.owner, Runner.owner, spawning, EnqueuePhase.owns, RunnerPhase.owns]
    refine Eq.trans ?_ (inv.owners gid)
    simp only [Runtime.owners, Runtime.setEnqueue, Pool.total_append, Pool.total_cons,
      Pool.total_nil] at moved ⊢
    omega
  · intro j other m' there isSlot
    cases Pool.get_set_cases there with
    | inl same =>
      obtain ⟨rfl, rfl⟩ := same
      cases isSlot
    | inr differ => exact inv.ofEnqueue j other m' differ.2 isSlot
  · intro j r there owns
    cases Pool.get_append_cases there with
    | inl new =>
      obtain ⟨_, rfl⟩ := new
      exact inv.ofEnqueue i e m found (by rw [spawning]; rfl)
    | inr old => exact inv.ofRunner j r old.2 owns
  · intro j other there isLock
    cases Pool.get_set_cases there with
    | inl same =>
      obtain ⟨rfl, rfl⟩ := same
      cases isLock
    | inr differ => exact inv.enqueueLocks j other differ.2 isLock
  · intro j r there leaves
    cases Pool.get_append_cases there with
    | inl new =>
      obtain ⟨_, rfl⟩ := new
      cases leaves
    | inr old => exact inv.runnerLocks j r old.2 leaves

/-! ## Steps of a runner -/

theorem owners_setRunner {i : Nat} {r : Runner P A R E} (isRunner : s.runners[i]? = some r)
    (phase : RunnerPhase P A R E) (gid : Gid) :
    (s.setRunner i r phase).owners gid + r.owner gid
      = s.owners gid + Runner.owner gid { r with phase := phase } := by
  have total := Pool.total_set (Runner.owner gid) { r with phase := phase } isRunner
  simp only [Runtime.owners, Runtime.setRunner]
  omega

/-- A runner moves on and keeps its slot. -/
theorem Owned.setRunner (inv : Owned config s) {i : Nat} {r r' : Runner P A R E}
    (isRunner : s.runners[i]? = some r) (owns : r.phase.owns = true)
    (runners : t.runners = s.runners.set i r') (owns' : r'.phase.owns = true)
    (gid : r'.gid = r.gid) (slot : r'.slot = r.slot) (enqueues : t.enqueues = s.enqueues)
    (directory : t.directory = s.directory)
    (slots : t.slots.map KeySlot.gid = s.slots.map KeySlot.gid) (locks : t.locks = s.locks) :
    Owned config t := by
  refine { slots := ?_, owners := ?_, ofEnqueue := ?_, ofRunner := ?_, enqueueLocks := ?_, runnerLocks := ?_ }
  · rw [directory, slots]
    exact inv.slots
  · intro g
    have total := Pool.total_set (Runner.owner g) r' isRunner
    have same : r'.owner g = r.owner g := by simp [Runner.owner, owns, owns', gid]
    rw [directory, ← inv.owners g]
    simp only [Runtime.owners, enqueues, runners]
    omega
  · rw [enqueues, directory]
    exact inv.ofEnqueue
  · rw [runners, directory]
    intro j other there isOwner
    cases Pool.get_set_cases there with
    | inl same =>
      obtain ⟨rfl, rfl⟩ := same
      rw [gid, slot]
      exact inv.ofRunner i r isRunner owns
    | inr differ => exact inv.ofRunner j other differ.2 isOwner
  · rw [enqueues, locks]
    exact inv.enqueueLocks
  · rw [runners, directory, locks]
    intro j other there leaves
    cases Pool.get_set_cases there with
    | inl same =>
      obtain ⟨rfl, rfl⟩ := same
      cases isPhase : other.phase <;> simp [isPhase, RunnerPhase.owns, RunnerPhase.leaves] at owns' leaves
    | inr differ => exact inv.runnerLocks j other differ.2 leaves

theorem Owned.retire (inv : Owned config s) {i : Nat} {r : Runner P A R E}
    (isRunner : s.runners[i]? = some r) (checking : r.phase = .checking)
    (isFree : s.locks (config.directory r.gid) = none) :
    Owned config { s.setRunner i r .leaving with
      directory := Function.update s.directory r.gid none
      locks := Function.update s.locks (config.directory r.gid) (some (.runner i))
      activeGids := s.activeGids - 1 } := by
  have owns : r.phase.owns = true := by rw [checking]; rfl
  have mapped := inv.ofRunner i r isRunner owns
  refine { slots := ?_, owners := ?_, ofEnqueue := ?_, ofRunner := ?_, enqueueLocks := ?_, runnerLocks := ?_ }
  · intro gid m isMapped
    exact inv.slots gid m (of_removed isMapped)
  · intro gid
    have moved := owners_setRunner isRunner .leaving gid
    have before : r.owner gid = if r.gid = gid then 1 else 0 := by simp [Runner.owner, owns]
    have after : Runner.owner gid ({ r with phase := .leaving } : Runner P A R E) = 0 := by
      simp [Runner.owner, RunnerPhase.owns]
    rw [before, after] at moved
    exact inv.owners_remove mapped moved
  · intro j e m there isSlot
    change Function.update s.directory _ _ _ = _
    rw [Function.update_of_ne]
    · exact inv.ofEnqueue j e m there isSlot
    · intro same
      cases EnqueuePhase.locks_or_owns isSlot with
      | inl locks =>
        have held := inv.enqueueLocks j e there locks
        rw [same, isFree] at held
        cases held
      | inr owns' => exact inv.enqueue_runner there isRunner owns' owns same.symm
  · intro j other there isOwner
    cases Pool.get_set_cases there with
    | inl same =>
      obtain ⟨rfl, rfl⟩ := same
      cases isOwner
    | inr differ =>
      change Function.update s.directory _ _ _ = _
      rw [Function.update_of_ne]
      · exact inv.ofRunner j other differ.2 isOwner
      · intro same
        exact differ.1 (inv.runner_unique isRunner differ.2 owns isOwner same.symm)
  · intro j e there locks
    exact held_of_take isFree (inv.enqueueLocks j e there locks)
  · intro j other there leaves
    cases Pool.get_set_cases there with
    | inl same =>
      obtain ⟨rfl, rfl⟩ := same
      exact ⟨Function.update_self .., Function.update_self ..⟩
    | inr differ =>
      obtain ⟨held, gone⟩ := inv.runnerLocks j other differ.2 leaves
      exact ⟨held_of_take isFree held, removed_of_none gone⟩

theorem Owned.leave (inv : Owned config s) {i : Nat} {r : Runner P A R E}
    (isRunner : s.runners[i]? = some r) (leaving : r.phase = .leaving) :
    Owned config ({ s.setRunner i r .done with wakeups := s.wakeups + 1 }.unlock config r.gid) := by
  obtain ⟨mine, _⟩ := inv.runnerLocks i r isRunner (by rw [leaving]; rfl)
  refine { inv with owners := ?_, ofRunner := ?_, enqueueLocks := ?_, runnerLocks := ?_ }
  · intro gid
    have moved := owners_setRunner isRunner .done gid
    have neither : r.owner gid = 0
        ∧ Runner.owner gid ({ r with phase := .done } : Runner P A R E) = 0 := by
      simp [Runner.owner, leaving, RunnerPhase.owns]
    refine Eq.trans ?_ (inv.owners gid)
    change (s.setRunner i r .done).owners gid = s.owners gid
    omega
  · intro j other there isOwner
    cases Pool.get_set_cases there with
    | inl same =>
      obtain ⟨rfl, rfl⟩ := same
      cases isOwner
    | inr differ => exact inv.ofRunner j other differ.2 isOwner
  · intro j e there locks
    exact held_of_release mine (inv.enqueueLocks j e there locks) (by simp)
  · intro j other there leaves
    cases Pool.get_set_cases there with
    | inl same =>
      obtain ⟨rfl, rfl⟩ := same
      cases leaves
    | inr differ =>
      obtain ⟨held, gone⟩ := inv.runnerLocks j other differ.2 leaves
      refine ⟨held_of_release mine held ?_, gone⟩
      intro same
      cases same
      exact differ.1 rfl

/-! ## All steps -/

/-- What neither moves an `enqueue` nor a runner keeps the owners. -/
theorem Owned.frame (inv : Owned config s) (enqueues : t.enqueues = s.enqueues)
    (directory : t.directory = s.directory) (runners : t.runners = s.runners)
    (slots : t.slots = s.slots) (locks : t.locks = s.locks) : Owned config t where
  slots := by rw [directory, slots]; exact inv.slots
  owners := by
    intro gid
    simp only [Runtime.owners, enqueues, runners, directory]
    exact inv.owners gid
  ofEnqueue := by rw [enqueues, directory]; exact inv.ofEnqueue
  ofRunner := by rw [runners, directory]; exact inv.ofRunner
  enqueueLocks := by rw [enqueues, locks]; exact inv.enqueueLocks
  runnerLocks := by rw [runners, locks, directory]; exact inv.runnerLocks

theorem Owned.tryUse (inv : Owned config s) {e : Enqueue P A R} (calling : e.phase = .calling)
    {pool : AdmissionPool.State} :
    Owned config { s with pool := pool, enqueues := s.enqueues ++ [e] } := by
  refine { inv with owners := ?_, ofEnqueue := ?_, enqueueLocks := ?_ }
  · intro gid
    have none : e.owner gid = 0 := by simp [Enqueue.owner, calling, EnqueuePhase.owns]
    refine Eq.trans ?_ (inv.owners gid)
    simp [Runtime.owners, none]
  · intro i other m there isSlot
    cases Pool.get_append_cases there with
    | inl new =>
      obtain ⟨_, rfl⟩ := new
      rw [calling] at isSlot
      cases isSlot
    | inr old => exact inv.ofEnqueue i other m old.2 isSlot
  · intro i other there isLock
    cases Pool.get_append_cases there with
    | inl new =>
      obtain ⟨_, rfl⟩ := new
      rw [calling] at isLock
      cases isLock
    | inr old => exact inv.enqueueLocks i other old.2 isLock

/-- The mailbox of a slot does not say whose slot it is. -/
theorem slotGids_set {m : Nat} {slot : KeySlot P A R} (slot' : KeySlot P A R)
    (there : s.slots[m]? = some slot) (gid : slot'.gid = slot.gid) :
    (s.slots.set m slot').map KeySlot.gid = s.slots.map KeySlot.gid := by
  rw [List.map_set, gid]
  apply Pool.set_self
  rw [List.getElem?_map, there]
  rfl

theorem Owned.step (inv : Owned config s) (taken : Step config s t) : Owned config t := by
  cases taken with
  | tryUse acquired => exact inv.tryUse rfl
  | full found calling =>
    exact inv.setEnqueue found (.rejected .gid) (by rw [calling]; rfl) (by intro m isSlot; cases isSlot)
      (by intro isLock; cases isLock) rfl rfl rfl rfl (.inl rfl)
  | lock found calling isFree mapped => exact inv.lock found calling isFree mapped
  | lockNew found calling isFree unmapped => exact inv.lockNew found calling isFree unmapped
  | @push i m spawnRunner e slot holder found acquiring isHolder granted there =>
    have slots := slotGids_set { slot with
      inflightCalls := slot.inflightCalls + 1
      inflightKib := slot.inflightKib + e.retainedKib
      queue := slot.queue ++ [⟨i, e.command, e.retainedKib⟩] } there rfl
    cases spawnRunner with
    | true =>
      refine inv.setEnqueue found (.counting m) (by rw [acquiring]; rfl) ?_ ?_ rfl rfl rfl slots (.inl rfl)
      · intro m' isSlot
        rw [acquiring]
        exact isSlot
      · intro _
        exact ⟨rfl, by rw [acquiring]; rfl⟩
    | false =>
      refine inv.setEnqueue found .accepted (by rw [acquiring]; rfl) ?_ ?_ rfl rfl rfl slots ?_
      · intro m' isSlot
        cases isSlot
      · intro isLock
        cases isLock
      · exact .inr ⟨by rw [acquiring]; rfl, rfl⟩
  | @refuse i m spawnRunner e reason holder found acquiring =>
    cases spawnRunner with
    | true => exact inv.refuseNew found acquiring
    | false =>
      refine inv.setEnqueue found (.rejected reason) (by rw [acquiring]; rfl) ?_ ?_ rfl rfl rfl rfl ?_
      · intro m' isSlot
        cases isSlot
      · intro isLock
        cases isLock
      · exact .inr ⟨by rw [acquiring]; rfl, rfl⟩
  | @count i m e found counting =>
    refine inv.setEnqueue found (.spawning m) (by rw [counting]; rfl) ?_ ?_ rfl rfl rfl rfl ?_
    · intro m' isSlot
      rw [counting]
      exact isSlot
    · intro isLock
      cases isLock
    · exact .inr ⟨by rw [counting]; rfl, rfl⟩
  | spawn found spawning => exact inv.spawn found spawning
  | take isRunner either isFree mapped there queue =>
    refine inv.setRunner isRunner ?_ rfl rfl rfl rfl rfl rfl (slotGids_set _ there rfl) rfl
    cases either with
    | inl taking => rw [taking]; rfl
    | inr checking => rw [checking]; rfl
  | serve isRunner serving served =>
    exact inv.setRunner isRunner (by rw [serving]; rfl) rfl rfl rfl rfl rfl rfl rfl rfl
  | finish isRunner finishing =>
    exact inv.setRunner isRunner (by rw [finishing]; rfl) rfl rfl rfl rfl rfl rfl rfl rfl
  | completeNext isRunner completing isFree mapped there queue =>
    exact inv.setRunner isRunner (by rw [completing]; rfl) rfl rfl rfl rfl rfl rfl
      (slotGids_set _ there rfl) rfl
  | completeLast isRunner completing isFree mapped there empty =>
    exact inv.setRunner isRunner (by rw [completing]; rfl) rfl rfl rfl rfl rfl rfl
      (slotGids_set _ there rfl) rfl
  | drop isRunner dropping =>
    exact inv.setRunner isRunner (by rw [dropping]; rfl) rfl rfl rfl rfl rfl rfl rfl rfl
  | dropKib isRunner dropping =>
    exact inv.setRunner isRunner (by rw [dropping]; rfl) rfl rfl rfl rfl rfl rfl rfl rfl
  | notifyNext isRunner notifying =>
    exact inv.setRunner isRunner (by rw [notifying]; rfl) rfl rfl rfl rfl rfl rfl rfl rfl
  | notifyLast isRunner notifying =>
    exact inv.setRunner isRunner (by rw [notifying]; rfl) rfl rfl rfl rfl rfl rfl rfl rfl
  | peek isRunner retiring =>
    exact inv.setRunner isRunner (by rw [retiring]; rfl) rfl rfl rfl rfl rfl rfl rfl rfl
  | peekNone isRunner retiring =>
    exact inv.setRunner isRunner (by rw [retiring]; rfl) rfl rfl rfl rfl rfl rfl rfl rfl
  | insert ok isRunner inserting =>
    exact inv.setRunner isRunner (by rw [inserting]; rfl) rfl rfl rfl rfl rfl rfl rfl rfl
  | retire isRunner checking isFree => exact inv.retire isRunner checking isFree
  | leave isRunner leaving => exact inv.leave isRunner leaving
  | _ => exact inv.frame rfl rfl rfl rfl rfl

end Runtime

end Xkk.Logic
