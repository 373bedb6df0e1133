import Xkk.Logic.Dispatch

/-! # The permits of the commands

The number of a command is the number of its `enqueue` call and of its permit.
`Numbered` says that a number is accepted at most once, for one player, and
`Permitted` that a command that is queued or in the hands of a runner has a live
permit, so that `Admission` counts it.
-/

set_option linter.unusedSectionVars false

namespace Xkk.Logic

open Xkk.Lib

variable {P A R E : Type} [LogicState P]

/-- The command is in the mailbox, or has been. -/
def EnqueuePhase.pushed : EnqueuePhase → Bool
  | .counting _ | .spawning _ | .accepted => true
  | .calling | .acquiring _ _ | .rejected _ => false

/-- Commands in the hands of the runner that still have their permit. -/
def RunnerPhase.live : RunnerPhase P A R E → List Nat
  | .serving envelope _ | .completing envelope => [envelope.id]
  | .dropping id next => id :: next.toList.map Envelope.id
  | .droppingKib _ next | .notifying next => next.toList.map Envelope.id
  | .taking | .retiring | .inserting _ | .checking | .leaving | .done => []

/-- The permit that is half dropped. -/
def RunnerPhase.half : RunnerPhase P A R E → List Nat
  | .droppingKib id _ => [id]
  | _ => []

namespace Runtime

variable {config : LogicConfig} {s t : Runtime P A R E}

/-! ## Numbers -/

structure Numbered (s : Runtime P A R E) : Prop where
  pushed : ∀ gid i, i ∈ s.accepted gid →
    ∃ e, s.enqueues[i]? = some e ∧ e.gid = gid ∧ e.phase.pushed = true
  nodup : ∀ gid, (s.accepted gid).Nodup

theorem numbered_initial (config : ValidConfig) :
    Numbered (Runtime.initial config : Runtime P A R E) where
  pushed := by intro gid i member; cases member
  nodup := by intro gid; exact List.nodup_nil

theorem Numbered.same_gid (inv : Numbered s) {gid gid' : Gid} {i : Nat} (first : i ∈ s.accepted gid)
    (second : i ∈ s.accepted gid') : gid = gid' := by
  obtain ⟨e, found, isGid, _⟩ := inv.pushed gid i first
  obtain ⟨e', found', isGid', _⟩ := inv.pushed gid' i second
  rw [found] at found'
  obtain rfl := Option.some.inj found'
  exact isGid.symm.trans isGid'

theorem Numbered.setEnqueue (inv : Numbered s) {i : Nat} {e e' : Enqueue P A R}
    (found : s.enqueues[i]? = some e) (enqueues : t.enqueues = s.enqueues.set i e')
    (accepted : t.accepted = s.accepted) (gid : e'.gid = e.gid)
    (pushed : e.phase.pushed = true → e'.phase.pushed = true) : Numbered t where
  pushed := by
    rw [accepted, enqueues]
    intro g j member
    obtain ⟨other, there, isGid, isPushed⟩ := inv.pushed g j member
    by_cases same : i = j
    · subst same
      rw [found] at there
      obtain rfl := Option.some.inj there
      exact ⟨e', Pool.get_set_self _ found, gid.trans isGid, pushed isPushed⟩
    · exact ⟨other, by rw [Pool.get_set_ne _ same]; exact there, isGid, isPushed⟩
  nodup := by rw [accepted]; exact inv.nodup

theorem Numbered.push (inv : Numbered s) {i : Nat} {e : Enqueue P A R} {phase : EnqueuePhase}
    (found : s.enqueues[i]? = some e) (unpushed : e.phase.pushed = false)
    (enqueues : t.enqueues = s.enqueues.set i { e with phase := phase })
    (accepted : t.accepted = Function.update s.accepted e.gid (s.accepted e.gid ++ [i]))
    (pushed : phase.pushed = true) : Numbered t := by
  have fresh : ∀ gid, i ∉ s.accepted gid := by
    intro gid member
    obtain ⟨other, there, _, isPushed⟩ := inv.pushed gid i member
    rw [found] at there
    obtain rfl := Option.some.inj there
    rw [unpushed] at isPushed
    cases isPushed
  have old : ∀ g j, j ∈ s.accepted g → ∃ other, t.enqueues[j]? = some other ∧ other.gid = g
      ∧ other.phase.pushed = true := by
    intro g j member
    obtain ⟨other, there, isGid, isPushed⟩ := inv.pushed g j member
    refine ⟨other, ?_, isGid, isPushed⟩
    rw [enqueues, Pool.get_set_ne]
    · exact there
    · intro same
      subst same
      exact fresh g member
  refine { pushed := ?_, nodup := ?_ }
  · intro g j member
    rw [accepted] at member
    by_cases same : g = e.gid
    · subst same
      rw [Function.update_self, List.mem_append, List.mem_singleton] at member
      cases member with
      | inl before => exact old _ j before
      | inr isNew =>
        subst isNew
        refine ⟨{ e with phase := phase }, ?_, rfl, pushed⟩
        rw [enqueues]
        exact Pool.get_set_self _ found
    · rw [Function.update_of_ne same] at member
      exact old g j member
  · intro g
    rw [accepted]
    by_cases same : g = e.gid
    · subst same
      rw [Function.update_self]
      exact List.Nodup.append (inv.nodup _) (List.nodup_singleton i)
        (List.disjoint_singleton.mpr (fresh _))
    · rw [Function.update_of_ne same]
      exact inv.nodup g

theorem Numbered.frame (inv : Numbered s) (enqueues : t.enqueues = s.enqueues)
    (accepted : t.accepted = s.accepted) : Numbered t where
  pushed := by rw [accepted, enqueues]; exact inv.pushed
  nodup := by rw [accepted]; exact inv.nodup

theorem Numbered.step (inv : Numbered s) (taken : Step config s t) : Numbered t := by
  cases taken with
  | tryUse =>
    refine { inv with pushed := ?_ }
    intro gid i member
    obtain ⟨e, found, rest⟩ := inv.pushed gid i member
    exact ⟨e, Pool.get_append_of_some _ found, rest⟩
  | full found calling =>
    exact inv.setEnqueue found rfl rfl rfl (by rw [calling]; simp [EnqueuePhase.pushed])
  | lock found calling =>
    exact inv.setEnqueue found rfl rfl rfl (by rw [calling]; simp [EnqueuePhase.pushed])
  | lockNew found calling =>
    exact inv.setEnqueue found rfl rfl rfl (by rw [calling]; simp [EnqueuePhase.pushed])
  | @push i m spawnRunner e slot holder found acquiring =>
    have unpushed : e.phase.pushed = false := by rw [acquiring]; rfl
    cases spawnRunner with
    | true => exact inv.push found unpushed rfl rfl rfl
    | false => exact inv.push found unpushed rfl rfl rfl
  | @refuse i m spawnRunner e reason holder found acquiring =>
    have unpushed : e.phase.pushed = true → False := by rw [acquiring]; simp [EnqueuePhase.pushed]
    cases spawnRunner with
    | true => exact inv.setEnqueue found rfl rfl rfl (fun pushed => (unpushed pushed).elim)
    | false => exact inv.setEnqueue found rfl rfl rfl (fun pushed => (unpushed pushed).elim)
  | count found counting => exact inv.setEnqueue found rfl rfl rfl (fun _ => rfl)
  | spawn found spawning => exact inv.setEnqueue found rfl rfl rfl (fun _ => rfl)
  | _ => exact inv.frame rfl rfl

/-! ## Permits -/

/-- The holder `id` of the admission pool is in this phase. -/
def Holds (s : Runtime P A R E) (id : Nat) (phase : AdmissionPool.HolderPhase) : Prop :=
  (s.pool.holders[id]?).map AdmissionPool.Holder.phase = some phase

/-- The phases of the permit of an `enqueue`. -/
def EnqueuePhase.Admits : EnqueuePhase → AdmissionPool.HolderPhase → Prop
  | .calling, phase => phase = .acquiring .start
  | .acquiring _ _, phase => ∃ acquire, phase = .acquiring acquire
  | .rejected _, phase => phase = .acquiring .start ∨ ∃ reason, phase = .acquiring (.rejected reason)
  | .counting _, _ | .spawning _, _ | .accepted, _ => True

structure Permitted (config : ValidConfig) (s : Runtime P A R E) : Prop where
  accounted : AdmissionPool.Accounted config s.pool
  length : s.pool.holders.length = s.enqueues.length
  enqueue : ∀ (i : Nat) e, s.enqueues[i]? = some e → ∃ phase, s.Holds i phase ∧ EnqueuePhase.Admits e.phase phase
  queued : ∀ gid envelope, envelope ∈ (s.desk gid).queue → s.Holds envelope.id (.acquiring .permit)
  live : ∀ (i : Nat) r id, s.runners[i]? = some r → id ∈ r.phase.live → s.Holds id (.acquiring .permit)
  half : ∀ (i : Nat) r id, s.runners[i]? = some r → id ∈ r.phase.half → s.Holds id .dropping

theorem permitted_initial (config : ValidConfig) :
    Permitted config (Runtime.initial config : Runtime P A R E) where
  accounted := AdmissionPool.accounted_initial config
  length := rfl
  enqueue := by intro i e found; simp [Runtime.initial] at found
  queued := by intro gid envelope member; simp [Desk.queue, Runtime.desk, Runtime.initial] at member
  live := by intro i r id found; simp [Runtime.initial] at found
  half := by intro i r id found; simp [Runtime.initial] at found

/-! ### Where the numbers are -/

/-- All commands of a player: answered, in hand or queued. -/
theorem Desk.Keeps.accepted_eq {d : Desk P A R} {h : Hands P A R} (keeps : d.Keeps config h) :
    d.accepted = d.answered ++ h.pending.map Envelope.id ++ d.queue.map Envelope.id := by
  rw [keeps.accepted, keeps.started]

/-- What a runner has in its hands is accepted. -/
theorem Desk.Keeps.hands_accepted {d : Desk P A R} {phase : RunnerPhase P A R E}
    (keeps : d.Keeps config phase.hands) {id : Nat} (member : id ∈ phase.live ∨ id ∈ phase.half) :
    id ∈ d.accepted := by
  have answered : id ∈ phase.hands.unreleased → id ∈ d.accepted := by
    intro unreleased
    rw [accepted_eq keeps]
    simp [keeps.unreleased id unreleased]
  have pending : id ∈ phase.hands.pending.map Envelope.id → id ∈ d.accepted := by
    intro isPending
    rw [accepted_eq keeps]
    simp only [List.mem_append]
    exact .inl (.inr isPending)
  cases phase with
  | serving envelope stage =>
    simp only [RunnerPhase.live, RunnerPhase.half, List.not_mem_nil, or_false] at member
    exact pending member
  | completing envelope =>
    simp only [RunnerPhase.live, RunnerPhase.half, List.not_mem_nil, or_false] at member
    exact answered member
  | dropping id' next =>
    simp only [RunnerPhase.live, RunnerPhase.half, List.mem_cons, List.not_mem_nil, or_false] at member
    cases member with
    | inl same => exact answered (by simp [RunnerPhase.hands, same])
    | inr isNext => exact pending isNext
  | droppingKib id' next =>
    simp only [RunnerPhase.live, RunnerPhase.half, List.mem_singleton] at member
    cases member with
    | inl isNext => exact pending isNext
    | inr same => exact answered (by simp [RunnerPhase.hands, same])
  | notifying next =>
    simp only [RunnerPhase.live, RunnerPhase.half, List.not_mem_nil, or_false] at member
    exact pending member
  | taking | retiring | inserting | checking | leaving | done =>
    simp [RunnerPhase.live, RunnerPhase.half] at member

/-- The desk of every player is kept by somebody. -/
theorem Dispatched.keeps (inv : Dispatched config s) (gid : Gid) :
    ∃ h, (s.desk gid).Keeps config h := by
  by_cases unserved : s.Unserved gid
  · exact ⟨_, inv.idle gid unserved⟩
  · simp only [Runtime.Unserved, not_forall, not_not] at unserved
    obtain ⟨i, r, isRunner, owns, same⟩ := unserved
    subst same
    exact ⟨_, (inv.runner i r isRunner owns).1⟩

theorem Dispatched.queue_accepted (inv : Dispatched config s) {gid : Gid} {envelope : Envelope P A R}
    (member : envelope ∈ (s.desk gid).queue) : envelope.id ∈ s.accepted gid := by
  obtain ⟨h, keeps⟩ := inv.keeps gid
  have accepted : s.accepted gid = s.started gid ++ (s.desk gid).queue.map Envelope.id := keeps.accepted
  rw [accepted]
  exact List.mem_append_right _ (List.mem_map_of_mem member)

theorem RunnerPhase.owns_of_live {phase : RunnerPhase P A R E} {id : Nat}
    (member : id ∈ phase.live ∨ id ∈ phase.half) : phase.owns = true := by
  cases phase with
  | leaving | done => simp [RunnerPhase.live, RunnerPhase.half] at member
  | _ => rfl

theorem Dispatched.live_accepted (inv : Dispatched config s) {i id : Nat} {r : Runner P A R E}
    (isRunner : s.runners[i]? = some r) (member : id ∈ r.phase.live ∨ id ∈ r.phase.half) :
    id ∈ s.accepted r.gid :=
  Desk.Keeps.hands_accepted (inv.runner i r isRunner (RunnerPhase.owns_of_live member)).1 member

/-- A command that was answered is neither queued nor in anybody else's hands. -/
theorem Numbered.released_apart (inv : Numbered s) (owned : Owned config s)
    (dispatched : Dispatched config s) {i id : Nat} {r : Runner P A R E} {next : Option (Envelope P A R)}
    (isRunner : s.runners[i]? = some r)
    (phase : r.phase = .dropping id next ∨ r.phase = .droppingKib id next) :
    (∀ gid envelope, envelope ∈ (s.desk gid).queue → id ≠ envelope.id)
    ∧ (∀ id' ∈ next.toList.map Envelope.id, id ≠ id')
    ∧ ∀ (j : Nat) r' id', i ≠ j → s.runners[j]? = some r' → id' ∈ r'.phase.live ∨ id' ∈ r'.phase.half →
        id ≠ id' := by
  have facts : r.phase.owns = true ∧ r.phase.hands = ⟨[id], next.toList, next.toList, []⟩ := by
    cases phase with
    | inl dropping => rw [dropping]; exact ⟨rfl, rfl⟩
    | inr dropping => rw [dropping]; exact ⟨rfl, rfl⟩
  have keeps := (dispatched.runner i r isRunner facts.1).1
  rw [facts.2] at keeps
  have answered : id ∈ (s.desk r.gid).answered := keeps.unreleased id (by simp)
  have all : s.accepted r.gid = (s.desk r.gid).answered ++ next.toList.map Envelope.id
    ++ (s.desk r.gid).queue.map Envelope.id := Desk.Keeps.accepted_eq keeps
  have mine : id ∈ s.accepted r.gid := by
    rw [all]
    simp [answered]
  have nodup := inv.nodup r.gid
  rw [all, List.append_assoc, List.nodup_append] at nodup
  have apart : ∀ id', id' ∈ next.toList.map Envelope.id ∨ id' ∈ (s.desk r.gid).queue.map Envelope.id →
      id ≠ id' := by
    intro id' member
    exact nodup.2.2 id answered id' (List.mem_append.mpr member)
  refine ⟨?_, ?_, ?_⟩
  · intro gid envelope member same
    have theirs := dispatched.queue_accepted member
    rw [← same] at theirs
    obtain rfl := inv.same_gid mine theirs
    exact apart envelope.id (.inr (List.mem_map_of_mem member)) same
  · intro id' member
    exact apart id' (.inl member)
  · intro j r' id' differ there member same
    have theirs := dispatched.live_accepted there member
    rw [← same] at theirs
    exact differ (owned.runner_unique isRunner there facts.1 (RunnerPhase.owns_of_live member)
      (inv.same_gid mine theirs))

/-! ### Steps -/

section Steps

variable {config : ValidConfig}

/-- A runner moves on; what it takes into its hands comes from its queue. -/
theorem Permitted.runnerStep (inv : Permitted config s) {i : Nat} {r r' : Runner P A R E}
    (isRunner : s.runners[i]? = some r) (runners : t.runners = s.runners.set i r')
    (enqueues : t.enqueues = s.enqueues) (pool : t.pool = s.pool)
    (queue : ∀ gid envelope, envelope ∈ (t.desk gid).queue → envelope ∈ (s.desk gid).queue)
    (live : ∀ id ∈ r'.phase.live, id ∈ r.phase.live
      ∨ ∃ envelope ∈ (s.desk r.gid).queue, envelope.id = id)
    (half : r'.phase.half = []) : Permitted config t := by
  have same : ∀ {id phase}, s.Holds id phase → t.Holds id phase := by
    intro id phase holds
    rw [Runtime.Holds, pool]
    exact holds
  refine { accounted := ?_, length := ?_, enqueue := ?_, queued := ?_, live := ?_, half := ?_ }
  · rw [pool]
    exact inv.accounted
  · rw [pool, enqueues]
    exact inv.length
  · rw [enqueues]
    intro j e found
    obtain ⟨phase, holds, admits⟩ := inv.enqueue j e found
    exact ⟨phase, same holds, admits⟩
  · intro gid envelope member
    exact same (inv.queued gid envelope (queue gid envelope member))
  · rw [runners]
    intro j other id there member
    cases Pool.get_set_cases there with
    | inl atI =>
      obtain ⟨rfl, rfl⟩ := atI
      cases live id member with
      | inl before => exact same (inv.live i r id isRunner before)
      | inr isQueued =>
        obtain ⟨envelope, isQueued, rfl⟩ := isQueued
        exact same (inv.queued _ envelope isQueued)
    | inr differ => exact same (inv.live j other id differ.2 member)
  · rw [runners]
    intro j other id there member
    cases Pool.get_set_cases there with
    | inl atI =>
      obtain ⟨rfl, rfl⟩ := atI
      rw [half] at member
      cases member
    | inr differ => exact same (inv.half j other id differ.2 member)

/-- A runner drops the permit of the command that it has completed. -/
theorem Permitted.release (inv : Permitted config s) (numbered : Numbered s)
    (owned : Owned config.toLogicConfig s) (dispatched : Dispatched config.toLogicConfig s) {i id : Nat}
    {r r' : Runner P A R E} {next : Option (Envelope P A R)} (isRunner : s.runners[i]? = some r)
    (phase : r.phase = .dropping id next ∨ r.phase = .droppingKib id next)
    (live : r'.phase.live = next.toList.map Envelope.id)
    (half : ∀ id' ∈ r'.phase.half, t.Holds id' .dropping)
    (runners : t.runners = s.runners.set i r') (enqueues : t.enqueues = s.enqueues)
    (accounted : AdmissionPool.Accounted config t.pool)
    (length : t.pool.holders.length = s.pool.holders.length)
    (others : ∀ id', id ≠ id' → t.pool.holders[id']? = s.pool.holders[id']?)
    (desks : ∀ gid, t.desk gid = s.desk gid) : Permitted config t := by
  have same : ∀ {id' phase}, id ≠ id' → s.Holds id' phase → t.Holds id' phase := by
    intro id' phase differ holds
    rw [Runtime.Holds, others id' differ]
    exact holds
  obtain ⟨fromQueue, fromNext, fromOthers⟩ := numbered.released_apart owned dispatched isRunner phase
  refine { accounted := accounted, length := ?_, enqueue := ?_, queued := ?_, live := ?_, half := ?_ }
  · rw [length, enqueues]
    exact inv.length
  · rw [enqueues]
    intro j e found
    obtain ⟨phase', holds, admits⟩ := inv.enqueue j e found
    by_cases atId : id = j
    · -- the command was accepted, so its `enqueue` waits for nothing
      subst atId
      have mine : id ∈ s.accepted r.gid := by
        refine dispatched.live_accepted isRunner ?_
        cases phase with
        | inl dropping => exact .inl (by rw [dropping]; simp [RunnerPhase.live])
        | inr dropping => exact .inr (by rw [dropping]; simp [RunnerPhase.half])
      obtain ⟨e', found', _, pushed⟩ := numbered.pushed r.gid id mine
      rw [found] at found'
      obtain rfl := Option.some.inj found'
      have inside : id < t.pool.holders.length := by
        rw [length, inv.length]
        exact Pool.lt_length found
      refine ⟨t.pool.holders[id].phase, ?_, ?_⟩
      · simp [Runtime.Holds, inside]
      · cases isPhase : e.phase with
        | counting | spawning | accepted => trivial
        | _ =>
          rw [isPhase] at pushed
          cases pushed
    · exact ⟨phase', same atId holds, admits⟩
  · intro gid envelope member
    rw [desks] at member
    exact same (fromQueue gid envelope member) (inv.queued gid envelope member)
  · rw [runners]
    intro j other id' there member
    cases Pool.get_set_cases there with
    | inl atI =>
      obtain ⟨rfl, rfl⟩ := atI
      rw [live] at member
      refine same (fromNext id' member) (inv.live i r id' isRunner ?_)
      cases phase with
      | inl dropping => rw [dropping]; exact List.mem_cons_of_mem _ member
      | inr dropping => rw [dropping]; exact member
    | inr differ =>
      exact same (fromOthers j other id' differ.1 differ.2 (.inl member)) (inv.live j other id' differ.2 member)
  · rw [runners]
    intro j other id' there member
    cases Pool.get_set_cases there with
    | inl atI =>
      obtain ⟨rfl, rfl⟩ := atI
      exact half id' member
    | inr differ =>
      exact same (fromOthers j other id' differ.1 differ.2 (.inr member)) (inv.half j other id' differ.2 member)

/-- An `enqueue` moves on and keeps its permit. -/
theorem Permitted.enqueueStep (inv : Permitted config s) {i : Nat} {e e' : Enqueue P A R}
    (found : s.enqueues[i]? = some e) (enqueues : t.enqueues = s.enqueues.set i e')
    (pool : t.pool = s.pool)
    (runners : ∀ (j : Nat) r, t.runners[j]? = some r → s.runners[j]? = some r ∨ r.phase = .taking)
    (admits : ∀ phase, s.Holds i phase → EnqueuePhase.Admits e.phase phase →
      EnqueuePhase.Admits e'.phase phase)
    (queue : ∀ gid envelope, envelope ∈ (t.desk gid).queue →
      envelope ∈ (s.desk gid).queue ∨ s.Holds envelope.id (.acquiring .permit)) :
    Permitted config t := by
  have same : ∀ {id phase}, s.Holds id phase → t.Holds id phase := by
    intro id phase holds
    rw [Runtime.Holds, pool]
    exact holds
  refine { accounted := ?_, length := ?_, enqueue := ?_, queued := ?_, live := ?_, half := ?_ }
  · rw [pool]
    exact inv.accounted
  · rw [pool, enqueues, List.length_set]
    exact inv.length
  · rw [enqueues]
    intro j other there
    cases Pool.get_set_cases there with
    | inl atI =>
      obtain ⟨rfl, rfl⟩ := atI
      obtain ⟨phase, holds, admitted⟩ := inv.enqueue i e found
      exact ⟨phase, same holds, admits phase holds admitted⟩
    | inr differ =>
      obtain ⟨phase, holds, admitted⟩ := inv.enqueue j other differ.2
      exact ⟨phase, same holds, admitted⟩
  · intro gid envelope member
    cases queue gid envelope member with
    | inl before => exact same (inv.queued gid envelope before)
    | inr holds => exact same holds
  · intro j r id there member
    cases runners j r there with
    | inl old => exact same (inv.live j r id old member)
    | inr taking =>
      rw [taking] at member
      cases member
  · intro j r id there member
    cases runners j r there with
    | inl old => exact same (inv.half j r id old member)
    | inr taking =>
      rw [taking] at member
      cases member

/-- One atomic operation of `acquire`: no permit is live before it is there. -/
theorem Permitted.acquire (inv : Permitted config s) {i m : Nat} {spawnRunner spurious : Bool}
    {e : Enqueue P A R} {pool : AdmissionPool.State} (found : s.enqueues[i]? = some e)
    (acquiring : e.phase = .acquiring m spawnRunner)
    (ticked : AdmissionPool.step s.pool (.tick i spurious) = some pool) :
    Permitted config { s with pool := pool } := by
  obtain ⟨phase, holds, admits⟩ := inv.enqueue i e found
  rw [acquiring] at admits
  obtain ⟨acquire, rfl⟩ := admits
  obtain ⟨h, isHolder, isPhase⟩ := Option.map_eq_some_iff.mp holds
  have accounted := AdmissionPool.accounted_step inv.accounted ticked
  obtain ⟨_, isAcquire, _⟩ | ⟨j, spur, h', phase, admission, next, isTick, found', acquiring', acquired, rfl⟩
    | ⟨j, spur, h', isTick, found', dropping, rfl⟩ | ⟨_, _, isDrop, _⟩ | ⟨isClose, _⟩ :=
    AdmissionPool.step_cases ticked
  · cases isAcquire
  · cases isTick
    rw [isHolder] at found'
    obtain rfl := Option.some.inj found'
    rw [isPhase] at acquiring'
    cases acquiring'
    -- a permit that is there or half dropped does not move
    have same : ∀ {id phase}, phase = .acquiring .permit ∨ phase = .dropping → s.Holds id phase →
        Runtime.Holds { s with pool := ⟨admission, s.pool.holders.set i ⟨h.retained, .acquiring next⟩⟩ } id
          phase := by
      intro id phase either held
      have differ : i ≠ id := by
        intro atId
        subst atId
        rw [Runtime.Holds, isHolder, Option.map_some, isPhase] at held
        cases held
        cases either with
        | inl permit =>
          cases permit
          cases acquired
        | inr dropping => cases dropping
      simp only [Runtime.Holds, Pool.get_set_ne _ differ]
      exact held
    refine { accounted := accounted, length := ?_, enqueue := ?_, queued := ?_, live := ?_, half := ?_ }
    · simp only [List.length_set]
      exact inv.length
    · intro j other there
      by_cases atI : i = j
      · subst atI
        rw [found] at there
        obtain rfl := Option.some.inj there
        refine ⟨.acquiring next, ?_, by rw [acquiring]; exact ⟨next, rfl⟩⟩
        simp only [Runtime.Holds, Pool.get_set_self _ isHolder, Option.map_some]
      · obtain ⟨phase, held, admitted⟩ := inv.enqueue j other there
        refine ⟨phase, ?_, admitted⟩
        simp only [Runtime.Holds, Pool.get_set_ne _ atI]
        exact held
    · intro gid envelope member
      exact same (.inl rfl) (inv.queued gid envelope member)
    · intro j r id there member
      exact same (.inl rfl) (inv.live j r id there member)
    · intro j r id there member
      exact same (.inr rfl) (inv.half j r id there member)
  · cases isTick
    rw [isHolder] at found'
    obtain rfl := Option.some.inj found'
    rw [isPhase] at dropping
    cases dropping
  · cases isDrop
  · cases isClose

theorem Permitted.tryUse (inv : Permitted config s) {e : Enqueue P A R} {retainedKib : UInt64}
    {pool : AdmissionPool.State} (calling : e.phase = .calling)
    (acquired : AdmissionPool.step s.pool (.acquire retainedKib) = some pool) :
    Permitted config { s with pool := pool, enqueues := s.enqueues ++ [e] } := by
  have accounted := AdmissionPool.accounted_step inv.accounted acquired
  cases acquired
  have same : ∀ {id phase}, s.Holds id phase → Runtime.Holds { s with
      pool := { s.pool with holders := s.pool.holders ++ [⟨retainedKib, .acquiring .start⟩] }
      enqueues := s.enqueues ++ [e] } id phase := by
    intro id phase holds
    obtain ⟨h, isHolder, isPhase⟩ := Option.map_eq_some_iff.mp holds
    simp only [Runtime.Holds, Pool.get_append_of_some _ isHolder, Option.map_some, isPhase]
  refine { accounted := accounted, length := ?_, enqueue := ?_, queued := ?_, live := ?_, half := ?_ }
  · simp [inv.length]
  · intro i other there
    cases Pool.get_append_cases there with
    | inl new =>
      obtain ⟨rfl, rfl⟩ := new
      refine ⟨.acquiring .start, ?_, by rw [calling]; rfl⟩
      simp [Runtime.Holds, ← inv.length]
    | inr old =>
      obtain ⟨phase, holds, admits⟩ := inv.enqueue i other old.2
      exact ⟨phase, same holds, admits⟩
  · intro gid envelope member
    exact same (inv.queued gid envelope member)
  · intro j r id there member
    exact same (inv.live j r id there member)
  · intro j r id there member
    exact same (inv.half j r id there member)

/-- Closing the admission leaves the permits alone. -/
theorem Permitted.frame (inv : Permitted config s) (enqueues : t.enqueues = s.enqueues)
    (runners : t.runners = s.runners) (holders : t.pool.holders = s.pool.holders)
    (accounted : AdmissionPool.Accounted config t.pool)
    (queue : ∀ gid, (t.desk gid).mailbox = (s.desk gid).mailbox) : Permitted config t := by
  have same : ∀ {id phase}, s.Holds id phase → t.Holds id phase := by
    intro id phase holds
    rw [Runtime.Holds, holders]
    exact holds
  refine { accounted := accounted, length := ?_, enqueue := ?_, queued := ?_, live := ?_, half := ?_ }
  · rw [holders, enqueues]
    exact inv.length
  · rw [enqueues]
    intro i e found
    obtain ⟨phase, holds, admits⟩ := inv.enqueue i e found
    exact ⟨phase, same holds, admits⟩
  · intro gid envelope member
    rw [Desk.queue, queue] at member
    exact same (inv.queued gid envelope member)
  · rw [runners]
    intro j r id there member
    exact same (inv.live j r id there member)
  · rw [runners]
    intro j r id there member
    exact same (inv.half j r id there member)

/-- What is queued after a mailbox was replaced. -/
theorem Owned.queue_set (owned : Owned config.toLogicConfig s) {g gid : Gid} {m : Nat}
    {slot slot' : KeySlot P A R} {envelope : Envelope P A R} (member : envelope ∈ (t.desk gid).queue)
    (mapped : s.directory g = some m) (there : s.slots[m]? = some slot)
    (directory : t.directory = s.directory) (slots : t.slots = s.slots.set m slot') :
    envelope ∈ (s.desk gid).queue ∨ gid = g ∧ envelope ∈ slot'.queue := by
  by_cases same : gid = g
  · subst same
    simp only [Desk.queue, Runtime.desk, directory, slots, mailbox_set_self _ mapped there] at member
    exact .inr ⟨rfl, member⟩
  · simp only [Desk.queue, Runtime.desk, directory, slots, owned.mailbox_set_ne _ mapped same] at member
    exact .inl member

/-- The queue of the slot that the directory maps the player to. -/
theorem queue_mapped {g : Gid} {m : Nat} {slot : KeySlot P A R} (mapped : s.directory g = some m)
    (there : s.slots[m]? = some slot) : (s.desk g).queue = slot.queue := by
  rw [Desk.queue, desk_mailbox mapped there, Option.elim_some]

/-- Nothing comes into a queue when commands leave one mailbox. -/
theorem Owned.queue_less (owned : Owned config.toLogicConfig s) {g gid : Gid} {m : Nat}
    {slot slot' : KeySlot P A R} {envelope : Envelope P A R} (member : envelope ∈ (t.desk gid).queue)
    (mapped : s.directory g = some m) (there : s.slots[m]? = some slot)
    (directory : t.directory = s.directory) (slots : t.slots = s.slots.set m slot')
    (less : slot'.queue ⊆ slot.queue) : envelope ∈ (s.desk gid).queue := by
  cases owned.queue_set member mapped there directory slots with
  | inl before => exact before
  | inr left =>
    obtain ⟨rfl, left⟩ := left
    rw [queue_mapped mapped there]
    exact less left

/-- Only the new command comes into a queue when one is pushed. -/
theorem Owned.queue_push (owned : Owned config.toLogicConfig s) {g gid : Gid} {m : Nat}
    {slot slot' : KeySlot P A R} {new envelope : Envelope P A R} (member : envelope ∈ (t.desk gid).queue)
    (mapped : s.directory g = some m) (there : s.slots[m]? = some slot)
    (directory : t.directory = s.directory) (slots : t.slots = s.slots.set m slot')
    (more : slot'.queue = slot.queue ++ [new]) : envelope ∈ (s.desk gid).queue ∨ envelope = new := by
  cases owned.queue_set member mapped there directory slots with
  | inl before => exact .inl before
  | inr pushed =>
    obtain ⟨rfl, pushed⟩ := pushed
    rw [more, List.mem_append, List.mem_singleton] at pushed
    rw [queue_mapped mapped there]
    exact pushed

/-- A new slot is empty and changes no other mailbox. -/
theorem Owned.queue_new (owned : Owned config.toLogicConfig s) {g gid : Gid} {slot : KeySlot P A R}
    {envelope : Envelope P A R} (member : envelope ∈ (t.desk gid).queue)
    (directory : t.directory = Function.update s.directory g (some s.slots.length))
    (slots : t.slots = s.slots ++ [slot]) (empty : slot.queue = []) :
    envelope ∈ (s.desk gid).queue := by
  by_cases same : gid = g
  · subst same
    simp [Desk.queue, Runtime.desk, directory, slots, empty] at member
  · simp only [Desk.queue, Runtime.desk, directory, slots, owned.mailbox_append_ne _ _ same] at member
    exact member

/-- A slot that is removed takes nothing from the other mailboxes. -/
theorem queue_remove {g gid : Gid} {envelope : Envelope P A R} (member : envelope ∈ (t.desk gid).queue)
    (directory : t.directory = Function.update s.directory g none) (slots : t.slots = s.slots) :
    envelope ∈ (s.desk gid).queue := by
  by_cases same : gid = g
  · subst same
    simp [Desk.queue, Runtime.desk, directory] at member
  · simp only [Desk.queue, Runtime.desk, directory, slots, Function.update_of_ne same] at member
    exact member

theorem Permitted.drop (inv : Permitted config s) (numbered : Numbered s)
    (owned : Owned config.toLogicConfig s) (dispatched : Dispatched config.toLogicConfig s) {i id : Nat}
    {r : Runner P A R E} {next : Option (Envelope P A R)} {pool : AdmissionPool.State}
    (isRunner : s.runners[i]? = some r) (dropping : r.phase = .dropping id next)
    (dropped : AdmissionPool.step s.pool (.drop id) = some pool) :
    Permitted config { s.setRunner i r (.droppingKib id next) with pool := pool } := by
  have accounted := AdmissionPool.accounted_step inv.accounted dropped
  obtain ⟨_, isAcquire, _⟩ | ⟨_, _, _, _, _, _, isTick, _⟩ | ⟨_, _, _, isTick, _⟩
    | ⟨j, retained, isDrop, isHolder, rfl⟩ | ⟨isClose, _⟩ := AdmissionPool.step_cases dropped
  · cases isAcquire
  · cases isTick
  · cases isTick
  · cases isDrop
    refine inv.release numbered owned dispatched isRunner (.inl dropping) rfl ?_ rfl rfl accounted
      (List.length_set ..) (fun id' differ => Pool.get_set_ne _ differ) (fun _ => rfl)
    intro id' member
    simp only [RunnerPhase.half, List.mem_singleton] at member
    subst member
    simp only [Runtime.Holds, Pool.get_set_self _ isHolder, Option.map_some]
  · cases isClose

theorem Permitted.dropKib (inv : Permitted config s) (numbered : Numbered s)
    (owned : Owned config.toLogicConfig s) (dispatched : Dispatched config.toLogicConfig s) {i id : Nat}
    {r : Runner P A R E} {next : Option (Envelope P A R)} {pool : AdmissionPool.State}
    (isRunner : s.runners[i]? = some r) (dropping : r.phase = .droppingKib id next)
    (dropped : AdmissionPool.step s.pool (.tick id false) = some pool) :
    Permitted config { s.setRunner i r (.notifying next) with pool := pool } := by
  have accounted := AdmissionPool.accounted_step inv.accounted dropped
  have half : id ∈ r.phase.half := by rw [dropping]; exact List.mem_singleton_self id
  have holds := inv.half i r id isRunner half
  have move : ∀ admission holder, pool = ⟨admission, s.pool.holders.set id holder⟩ →
      Permitted config { s.setRunner i r (.notifying next) with pool := pool } := by
    intro admission holder isPool
    subst isPool
    refine inv.release numbered owned dispatched isRunner (.inr dropping) rfl ?_ rfl rfl accounted
      (List.length_set ..) (fun id' differ => Pool.get_set_ne _ differ) (fun _ => rfl)
    intro id' member
    cases member
  obtain ⟨_, isAcquire, _⟩ | ⟨_, _, _, _, _, _, isTick, _, _, _, isPool⟩ | ⟨_, _, _, isTick, _, _, isPool⟩
    | ⟨_, _, isDrop, _⟩ | ⟨isClose, _⟩ := AdmissionPool.step_cases dropped
  · cases isAcquire
  · cases isTick
    exact move _ _ isPool
  · cases isTick
    exact move _ _ isPool
  · cases isDrop
  · cases isClose

/-- A runner moves on with permits that it has. -/
theorem Permitted.move (inv : Permitted config s) {i : Nat} {r r' : Runner P A R E}
    (isRunner : s.runners[i]? = some r) (runners : t.runners = s.runners.set i r')
    (enqueues : t.enqueues = s.enqueues) (pool : t.pool = s.pool)
    (queue : ∀ gid envelope, envelope ∈ (t.desk gid).queue → envelope ∈ (s.desk gid).queue)
    (live : r'.phase.live ⊆ r.phase.live) (half : r'.phase.half = []) : Permitted config t :=
  inv.runnerStep isRunner runners enqueues pool queue (fun _ member => .inl (live member)) half

/-- A runner takes the first command of its queue. -/
theorem Permitted.dequeue (inv : Permitted config s) (owned : Owned config.toLogicConfig s) {i : Nat}
    {r : Runner P A R E} {slot slot' : KeySlot P A R} {first : Envelope P A R}
    {rest : List (Envelope P A R)} {phase : RunnerPhase P A R E} (isRunner : s.runners[i]? = some r)
    (mapped : s.directory r.gid = some r.slot) (there : s.slots[r.slot]? = some slot)
    (queue : slot.queue = first :: rest) (live : ∀ id ∈ phase.live, id ∈ r.phase.live ∨ id = first.id)
    (half : phase.half = []) :
    Permitted config ((s.dequeue r.gid r.slot slot' first rest).setRunner i r phase) := by
  have isFirst : first ∈ (s.desk r.gid).queue := by
    rw [queue_mapped mapped there, queue]
    exact List.mem_cons_self
  refine inv.runnerStep isRunner rfl rfl rfl ?_ ?_ half
  · intro gid other member
    refine owned.queue_less member mapped there rfl rfl ?_
    rw [queue]
    exact List.subset_cons_self ..
  · intro id member
    cases live id member with
    | inl before => exact .inl before
    | inr isNew => exact .inr ⟨first, isFirst, isNew.symm⟩

/-- The command comes into the mailbox with its permit. -/
theorem Permitted.push (inv : Permitted config s) (owned : Owned config.toLogicConfig s) {i m : Nat}
    {e : Enqueue P A R} {slot : KeySlot P A R} {phase : EnqueuePhase} (found : s.enqueues[i]? = some e)
    (mapped : s.directory e.gid = some m) (there : s.slots[m]? = some slot)
    (holds : s.Holds i (.acquiring .permit))
    (enqueues : t.enqueues = s.enqueues.set i { e with phase := phase }) (runners : t.runners = s.runners)
    (pool : t.pool = s.pool) (directory : t.directory = s.directory)
    (slots : t.slots = (s.push i e m slot).slots) (admits : ∀ held, EnqueuePhase.Admits phase held) :
    Permitted config t := by
  refine inv.enqueueStep found enqueues pool ?_ (fun held _ _ => admits held) ?_
  · rw [runners]
    exact fun _ _ old => .inl old
  · intro gid envelope member
    cases owned.queue_push member mapped there directory slots rfl with
    | inl before => exact .inl before
    | inr isNew =>
      rw [isNew]
      exact .inr holds

theorem Permitted.step (inv : Permitted config s) (numbered : Numbered s)
    (owned : Owned config.toLogicConfig s) (dispatched : Dispatched config.toLogicConfig s)
    (taken : Step config.toLogicConfig s t) : Permitted config t := by
  have kept : ∀ gid (envelope : Envelope P A R), envelope ∈ (s.desk gid).queue →
      envelope ∈ (s.desk gid).queue ∨ s.Holds envelope.id (.acquiring .permit) :=
    fun _ _ member => .inl member
  cases taken with
  | tryUse acquired => exact inv.tryUse rfl acquired
  | full found calling =>
    refine inv.enqueueStep found rfl rfl (fun _ _ old => .inl old) ?_ kept
    intro phase _ admits
    rw [calling] at admits
    exact .inl admits
  | lock found calling =>
    refine inv.enqueueStep found rfl rfl (fun _ _ old => .inl old) ?_ kept
    intro phase _ admits
    rw [calling] at admits
    exact ⟨_, admits⟩
  | @lockNew i e found calling isFree unmapped =>
    refine inv.enqueueStep found rfl rfl (fun _ _ old => .inl old) ?_ ?_
    · intro phase _ admits
      rw [calling] at admits
      exact ⟨_, admits⟩
    · intro gid envelope member
      exact .inl (owned.queue_new member rfl rfl rfl)
  | acquire found acquiring ticked => exact inv.acquire found acquiring ticked
  | @push i m spawnRunner e slot holder found acquiring isHolder granted there =>
    have mapped := owned.ofEnqueue i e m found (by rw [acquiring]; rfl)
    have holds : s.Holds i (.acquiring .permit) := by
      simp only [Runtime.Holds, isHolder, Option.map_some, granted]
    cases spawnRunner with
    | true => exact inv.push owned found mapped there holds rfl rfl rfl rfl rfl (fun _ => trivial)
    | false => exact inv.push owned found mapped there holds rfl rfl rfl rfl rfl (fun _ => trivial)
  | @refuse i m spawnRunner e reason holder found acquiring isHolder rejected =>
    have admits : ∀ phase, s.Holds i phase → EnqueuePhase.Admits e.phase phase →
        EnqueuePhase.Admits (.rejected reason) phase := by
      intro phase holds _
      simp only [Runtime.Holds, isHolder, Option.map_some, rejected, Option.some.injEq] at holds
      exact .inr ⟨reason, holds.symm⟩
    cases spawnRunner with
    | true =>
      exact inv.enqueueStep found rfl rfl (fun _ _ old => .inl old) admits
        (fun gid envelope member => .inl (queue_remove member rfl rfl))
    | false => exact inv.enqueueStep found rfl rfl (fun _ _ old => .inl old) admits kept
  | count found counting =>
    exact inv.enqueueStep found rfl rfl (fun _ _ old => .inl old) (fun _ _ _ => trivial) kept
  | spawn found spawning =>
    refine inv.enqueueStep found rfl rfl ?_ (fun _ _ _ => trivial) kept
    intro j r there
    cases Pool.get_append_cases there with
    | inl new => exact .inr (by rw [new.2])
    | inr old => exact .inl old.2
  | take isRunner either isFree mapped there queue =>
    refine inv.dequeue owned isRunner mapped there queue ?_ rfl
    intro id member
    exact .inr (List.mem_singleton.mp member)
  | serve isRunner serving served =>
    exact inv.move isRunner rfl rfl rfl (fun _ _ member => member) (by rw [serving]; exact .refl _) rfl
  | finish isRunner finishing =>
    exact inv.move isRunner rfl rfl rfl (fun _ _ member => member) (by rw [finishing]; exact .refl _) rfl
  | completeNext isRunner completing isFree mapped there queue =>
    refine inv.dequeue owned isRunner mapped there queue ?_ rfl
    intro id member
    rw [completing]
    cases List.mem_cons.mp member with
    | inl same => exact .inl (List.mem_singleton.mpr same)
    | inr isNext => exact .inr (List.mem_singleton.mp isNext)
  | completeLast isRunner completing isFree mapped there =>
    refine inv.move isRunner rfl rfl rfl ?_ (by rw [completing]; exact .refl _) rfl
    intro gid other member
    exact owned.queue_less member mapped there rfl rfl (List.Subset.refl _)
  | drop isRunner dropping dropped => exact inv.drop numbered owned dispatched isRunner dropping dropped
  | dropKib isRunner dropping dropped => exact inv.dropKib numbered owned dispatched isRunner dropping dropped
  | notifyNext isRunner notifying =>
    exact inv.move isRunner rfl rfl rfl (fun _ _ member => member) (by rw [notifying]; exact .refl _) rfl
  | notifyLast isRunner | peek isRunner | peekNone isRunner | insert ok isRunner | leave isRunner =>
    exact inv.move isRunner rfl rfl rfl (fun _ _ member => member) (List.nil_subset _) rfl
  | retire isRunner checking =>
    exact inv.move isRunner rfl rfl rfl (fun gid envelope member => queue_remove member rfl rfl)
      (List.nil_subset _) rfl
  | close found closing closed =>
    have accounted := AdmissionPool.accounted_step inv.accounted closed
    cases closed
    exact inv.frame rfl rfl rfl accounted (fun _ => rfl)
  | _ => exact inv.frame rfl rfl rfl inv.accounted (fun _ => rfl)

end Steps

/-- The invariants of the dispatch, which rest on each other. -/
structure Served (config : ValidConfig) (s : Runtime P A R E) : Prop where
  owned : Owned config.toLogicConfig s
  located : Located s
  dispatched : Dispatched config.toLogicConfig s
  numbered : Numbered s
  permitted : Permitted config s

theorem served_initial (config : ValidConfig) : Served config (Runtime.initial config : Runtime P A R E) where
  owned := owned_initial config
  located := located_initial config
  dispatched := dispatched_initial config
  numbered := numbered_initial config
  permitted := permitted_initial config

theorem Served.step {config : ValidConfig} (inv : Served config s)
    (taken : Step config.toLogicConfig s t) : Served config t where
  owned := inv.owned.step taken
  located := inv.located.step inv.owned taken
  dispatched := inv.dispatched.step inv.owned inv.located taken
  numbered := inv.numbered.step taken
  permitted := inv.permitted.step inv.numbered inv.owned inv.dispatched taken

theorem served_reach {config : ValidConfig} {C : Runtime P A R E → Label P A R E → Prop}
    (reached : (system P A R E config).Reach C s) : Served config s :=
  Step.inv (served_initial config) (fun _ _ inv taken => inv.step taken) reached

end Runtime

end Xkk.Logic
