import Xkk.Logic.Serialization

/-! # Shutdown

`shutdown` closes the admission and reads `inflight_calls` and `active_gids` one
after the other.  Once the admission is closed and no call is in flight nobody
can be admitted (`Emptied`), and from then on `active_gids` only falls; so the
two reads together say that the runtime is `Drained`, and it stays so.
-/

set_option linter.unusedSectionVars false

namespace Xkk.Logic

open Xkk.Lib

variable {P A R E : Type} [LogicState P]

def EnqueuePhase.spawns : EnqueuePhase → Bool
  | .spawning _ => true
  | .calling | .acquiring _ _ | .counting _ | .accepted | .rejected _ => false

/-- The call has left its drain loop. -/
def ShutdownPhase.passed : ShutdownPhase E → Bool
  | .flush | .flushing _ | .dirtyPlayers | .dirtySlots _ | .storing | .returned _ => true
  | .start | .closing | .exchanging | .inflight _ | .active _ | .subscribing | .waiting _ => false

def ShutdownPhase.succeeded : ShutdownPhase E → Bool
  | .returned (.ok _) => true
  | _ => false

def ShutdownPhase.failed : ShutdownPhase E → Bool
  | .returned (.error _) => true
  | _ => false

namespace Runtime

variable {config : LogicConfig} {s t : Runtime P A R E}

/-! ## What `active_gids` counts -/

/-- `active_gids` counts the slots from the end of the locked section that
    inserted them on. -/
def Counted (s : Runtime P A R E) : Prop :=
  s.activeGids = Pool.total (fun e => e.phase.spawns.toNat) s.enqueues
    + Pool.total (fun r => r.phase.owns.toNat) s.runners

theorem Counted.setEnqueue (inv : Counted s) {i : Nat} {e e' : Enqueue P A R}
    (found : s.enqueues[i]? = some e) (enqueues : t.enqueues = s.enqueues.set i e')
    (runners : t.runners = s.runners) (activeGids : t.activeGids + e.phase.spawns.toNat
      = s.activeGids + e'.phase.spawns.toNat) : Counted t := by
  have total := Pool.total_set (fun e : Enqueue P A R => e.phase.spawns.toNat) e' found
  simp only [Counted, enqueues, runners] at inv ⊢
  omega

theorem Counted.setRunner (inv : Counted s) {i : Nat} {r r' : Runner P A R E}
    (isRunner : s.runners[i]? = some r) (runners : t.runners = s.runners.set i r')
    (enqueues : t.enqueues = s.enqueues) (activeGids : t.activeGids + r.phase.owns.toNat
      = s.activeGids + r'.phase.owns.toNat) : Counted t := by
  have total := Pool.total_set (fun r : Runner P A R E => r.phase.owns.toNat) r' isRunner
  simp only [Counted, enqueues, runners] at inv ⊢
  omega

theorem Counted.step (inv : Counted s) (taken : Step config s t) : Counted t := by
  cases taken with
  | tryUse =>
    have count := inv
    simp only [Counted, Pool.total_append, Pool.total_cons, Pool.total_nil, EnqueuePhase.spawns,
      Bool.toNat_false] at count ⊢
    omega
  | full found calling => exact inv.setEnqueue found rfl rfl (by rw [calling]; rfl)
  | lock found calling => exact inv.setEnqueue found rfl rfl (by rw [calling]; rfl)
  | lockNew found calling => exact inv.setEnqueue found rfl rfl (by rw [calling]; rfl)
  | @push i m spawnRunner e slot holder found acquiring =>
    cases spawnRunner with
    | true => exact inv.setEnqueue found rfl rfl (by rw [acquiring]; rfl)
    | false => exact inv.setEnqueue found rfl rfl (by rw [acquiring]; rfl)
  | @refuse i m spawnRunner e reason holder found acquiring =>
    cases spawnRunner with
    | true => exact inv.setEnqueue found rfl rfl (by rw [acquiring]; rfl)
    | false => exact inv.setEnqueue found rfl rfl (by rw [acquiring]; rfl)
  | count found counting => exact inv.setEnqueue found rfl rfl (by rw [counting]; rfl)
  | @spawn i m e found spawning =>
    have total := Pool.total_set (fun e : Enqueue P A R => e.phase.spawns.toNat)
      { e with phase := .accepted } found
    have counts : e.phase.spawns.toNat = 1 := by rw [spawning]; rfl
    have accepted : ({ e with phase := .accepted } : Enqueue P A R).phase.spawns.toNat = 0 := rfl
    have owns : (RunnerPhase.taking : RunnerPhase P A R E).owns.toNat = 1 := rfl
    have count := inv
    simp only [Counted, Runtime.setEnqueue, Pool.total_append, Pool.total_cons,
      Pool.total_nil] at count ⊢
    omega
  | @take i r slot envelope rest isRunner either =>
    refine inv.setRunner isRunner rfl rfl ?_
    cases either with
    | inl taking => rw [taking]; rfl
    | inr checking => rw [checking]; rfl
  | serve isRunner serving => exact inv.setRunner isRunner rfl rfl (by rw [serving]; rfl)
  | finish isRunner finishing => exact inv.setRunner isRunner rfl rfl (by rw [finishing]; rfl)
  | completeNext isRunner completing => exact inv.setRunner isRunner rfl rfl (by rw [completing]; rfl)
  | completeLast isRunner completing => exact inv.setRunner isRunner rfl rfl (by rw [completing]; rfl)
  | drop isRunner dropping => exact inv.setRunner isRunner rfl rfl (by rw [dropping]; rfl)
  | dropKib isRunner dropping => exact inv.setRunner isRunner rfl rfl (by rw [dropping]; rfl)
  | notifyNext isRunner notifying => exact inv.setRunner isRunner rfl rfl (by rw [notifying]; rfl)
  | notifyLast isRunner notifying => exact inv.setRunner isRunner rfl rfl (by rw [notifying]; rfl)
  | peek isRunner retiring => exact inv.setRunner isRunner rfl rfl (by rw [retiring]; rfl)
  | peekNone isRunner retiring => exact inv.setRunner isRunner rfl rfl (by rw [retiring]; rfl)
  | insert ok isRunner inserting => exact inv.setRunner isRunner rfl rfl (by rw [inserting]; rfl)
  | @retire i r slot isRunner checking =>
    refine inv.setRunner isRunner rfl rfl ?_
    -- the runner is counted, so the counter is not zero
    have weight := Pool.weight_le_total (fun r : Runner P A R E => r.phase.owns.toNat) isRunner
    have count := inv
    have owns : r.phase.owns.toNat = 1 := by rw [checking]; rfl
    have left : ({ r with phase := .leaving } : Runner P A R E).phase.owns.toNat = 0 := rfl
    simp only [Counted] at count
    change s.activeGids - 1 + _ = s.activeGids + _
    omega
  | leave isRunner leaving => exact inv.setRunner isRunner rfl rfl (by rw [leaving]; rfl)
  | _ => exact inv

/-! ## The drained runtime -/

/-- The admission is closed and no call is in flight. -/
structure Emptied (s : Runtime P A R E) : Prop where
  closed : s.pool.admission.closed = true
  inflight : s.pool.admission.inflight = 0

structure Drained (s : Runtime P A R E) : Prop extends Emptied s where
  active : s.activeGids = 0

/-- No player owns a dirty slot either. -/
structure Swept (s : Runtime P A R E) : Prop extends Drained s where
  slots : s.vault.dirtySlots = 0

theorem pool_step (taken : Step config s t) :
    t.pool = s.pool ∨ ∃ l, AdmissionPool.step s.pool l = some t.pool := by
  cases taken with
  | tryUse acquired => exact .inr ⟨_, acquired⟩
  | acquire _ _ ticked => exact .inr ⟨_, ticked⟩
  | drop _ _ dropped => exact .inr ⟨_, dropped⟩
  | dropKib _ _ dropped => exact .inr ⟨_, dropped⟩
  | close _ _ closed => exact .inr ⟨_, closed⟩
  | push => split <;> exact .inl rfl
  | refuse => split <;> exact .inl rfl
  | _ => exact .inl rfl

section Drain

variable {config : ValidConfig}

theorem Served.closed_step (inv : Served config s) (closed : s.pool.admission.closed = true)
    (taken : Step config.toLogicConfig s t) :
    t.pool.admission.closed = true ∧ t.pool.admission.inflight ≤ s.pool.admission.inflight := by
  cases pool_step taken with
  | inl same =>
    rw [same]
    exact ⟨closed, Nat.le_refl _⟩
  | inr moved =>
    obtain ⟨l, moved⟩ := moved
    obtain ⟨stays, fewer, _⟩ := AdmissionPool.closed_step inv.permitted.accounted closed moved
    exact ⟨stays, fewer⟩

theorem Emptied.step (emptied : Emptied s) (inv : Served config s) (taken : Step config.toLogicConfig s t) :
    Emptied t := by
  obtain ⟨closed, fewer⟩ := inv.closed_step emptied.closed taken
  have none := emptied.inflight
  exact ⟨closed, by omega⟩

/-- Without calls in flight nobody holds a permit. -/
theorem Emptied.unheld (emptied : Emptied s) (inv : Served config s) (i : Nat)
    (holds : s.Holds i (.acquiring .permit)) : False := by
  obtain ⟨h, isHolder, isPhase⟩ := Option.map_eq_some_iff.mp holds
  have weight := Pool.weight_le_total AdmissionPool.Holder.slots isHolder
  have counted := inv.permitted.accounted.calls
  rw [emptied.inflight] at counted
  simp only [AdmissionPool.Holder.slots, isPhase, AcquirePhase.slots] at weight
  omega

theorem Emptied.queue (emptied : Emptied s) (inv : Served config s) (gid : Gid) :
    (s.desk gid).queue = [] := by
  cases queue : (s.desk gid).queue with
  | nil => rfl
  | cons envelope rest =>
    exact (emptied.unheld inv _ (inv.permitted.queued gid envelope (by simp [queue]))).elim

theorem Emptied.unpushed (emptied : Emptied s) (inv : Served config s) {i : Nat} {e : Enqueue P A R}
    (found : s.enqueues[i]? = some e) (m : Nat) : e.phase ≠ .counting m ∧ e.phase ≠ .spawning m := by
  have expected := inv.dispatched.enqueue i e found
  have isEmpty := emptied.queue inv e.gid
  constructor
  · intro counting
    rw [counting] at expected
    exact expected isEmpty
  · intro spawning
    rw [spawning] at expected
    exact expected isEmpty

/-- A call that has not been admitted is not admitted any more. -/
theorem Emptied.accepted_step (emptied : Emptied s) (inv : Served config s)
    (taken : Step config.toLogicConfig s t) : t.accepted = s.accepted := by
  cases taken with
  | @push i m spawnRunner e slot holder found acquiring isHolder granted =>
    refine (emptied.unheld inv i ?_).elim
    simp only [Runtime.Holds, isHolder, Option.map_some, granted]
  | refuse => split <;> rfl
  | _ => rfl

theorem Drained.unserved (drained : Drained s) (counted : Counted s) {i : Nat} {r : Runner P A R E}
    (isRunner : s.runners[i]? = some r) : r.phase.owns = false := by
  have weight := Pool.weight_le_total (fun r : Runner P A R E => r.phase.owns.toNat) isRunner
  have none := drained.active
  simp only [Counted] at counted
  cases owns : r.phase.owns with
  | false => rfl
  | true =>
    simp only [owns, Bool.toNat_true] at weight
    omega

theorem Drained.step (drained : Drained s) (inv : Served config s)
    (taken : Step config.toLogicConfig s t) : Drained t := by
  refine { drained.toEmptied.step inv taken with active := ?_ }
  have active := drained.active
  cases taken with
  | @count i m e found counting => exact absurd counting (drained.unpushed inv found m).1
  | retire =>
    change s.activeGids - 1 = 0
    omega
  | push => split <;> exact active
  | refuse => split <;> exact active
  | _ => exact active

/-- A saver only gives slots back. -/
theorem save_slots_le {k : Nat} {v v' : Vault P R E} {saver : Saver E} {choice : Choice P A E}
    (taken : v.save k saver saver.phase choice = some v') : v'.dirtySlots ≤ v.dirtySlots := by
  cases Vault.saves_of_save taken with
  | @saved c todo dirty cell state wrote result _ _ =>
    simp only [Vault.setSaver, Vault.setCell, (v.write_rest cell.gid cell.state wrote).2.1]
    exact Nat.le_refl _
  | refresh _ _ isRefreshed =>
    obtain ⟨_, rfl | ⟨_, _, rfl⟩⟩ := Vault.refreshSlot_cases isRefreshed
    · exact Nat.le_refl _
    · exact Nat.sub_le ..
  | @mark c isDirty todo result _ =>
    simp only [Vault.setSaver, (v.markDirty_cells c isDirty).2.1]
    exact Nat.le_refl _
  | _ => exact Nat.le_refl _

theorem Swept.step (swept : Swept s) (inv : Served config s) (counted : Counted s)
    (taken : Step config.toLogicConfig s t) : Swept t := by
  refine { swept.toDrained.step inv taken with slots := ?_ }
  have slots := swept.slots
  cases taken with
  | serve isRunner serving =>
    have left := swept.unserved counted isRunner
    rw [serving] at left
    cases left
  | insert ok isRunner inserting =>
    have left := swept.unserved counted isRunner
    rw [inserting] at left
    cases left
  | startSaver started =>
    rw [(Vault.startSaver_rest started).2.2.2.2.2]
    exact slots
  | save isSaver saved =>
    have fewer := save_slots_le saved
    exact Nat.le_zero.mp (slots ▸ fewer)
  | flush found flushing started =>
    rw [(Vault.flush_rest started).2.2.2.2.2]
    exact slots
  | push => split <;> exact slots
  | refuse => split <;> exact slots
  | _ => exact slots

/-! ## Unsaved players -/

/-- Only a runner makes a player dirty before it has its slot. -/
theorem Drained.slotted (drained : Drained s) (inv : Serving config s) (counted : Counted s) {c : Nat}
    {cell : PlayerCell P} (found : s.vault.cells[c]? = some cell) (dirty : cell.dirty = true) :
    cell.dirtySlot = true := by
  have settled : ∀ {marked : Bool}, cell.Settled marked → cell.dirtySlot = true :=
    fun agrees => agrees.1.symm.trans dirty
  cases gate : cell.saveGate with
  | none => exact settled (Slotted.free inv.agree c cell found gate)
  | some holder =>
    cases holder with
    | runner i =>
      obtain ⟨r, stage, isRunner, held⟩ := inv.gates c cell i found gate
      have left := drained.unserved counted isRunner
      cases phase : r.phase with
      | serving envelope stage =>
        rw [phase] at left
        cases left
      | _ => simp [Runner.held, phase] at held
    | saver k =>
      obtain ⟨saver, isSaver, member⟩ := Slotted.heldBySaver inv.agree c cell k found gate
      obtain ⟨other, there, _, agrees⟩ := (Slotted.savers inv.agree k saver isSaver).1 c member
      rw [found] at there
      obtain rfl := Option.some.inj there
      cases phase : saver.phase with
      | locking next =>
        rw [phase] at agrees
        exact settled agrees
      | saving todo unsaved =>
        rw [phase] at agrees
        simp only [SaverPhase.Agrees] at agrees
        split at agrees
        · exact agrees.1
        · exact settled agrees
      | refreshing todo result =>
        rw [phase] at agrees
        simp only [SaverPhase.Agrees] at agrees
        split at agrees
        · exact agrees dirty
        · exact settled agrees
      | marking d isDirty todo result =>
        rw [phase] at agrees
        simp only [SaverPhase.Agrees] at agrees
        split at agrees
        · rw [agrees.2, ← agrees.1]
          exact dirty
        · split at agrees
          · exact agrees dirty
          · exact settled agrees
      | done result =>
        rw [phase] at agrees
        exact settled agrees

theorem Swept.clean (swept : Swept s) (inv : Serving config s) (counted : Counted s) {c : Nat}
    {cell : PlayerCell P} (found : s.vault.cells[c]? = some cell) : cell.dirty = false := by
  cases dirty : cell.dirty with
  | false => rfl
  | true =>
    have slot := swept.slotted inv counted found dirty
    have weight := Pool.weight_le_total (fun cell : PlayerCell P => cell.dirtySlot.toNat) found
    have sum := Slotted.counted inv.agree
    have none := swept.slots
    simp only [slot, Bool.toNat_true] at weight
    simp only [Vault.ownedSlots] at sum
    omega

/-! ## The calls of `shutdown` -/

/-- What a call knows at each point. -/
def Knows (s : Runtime P A R E) (d : Shutdown E) : Prop :=
  match d.phase with
  | .start | .closing => True
  | .exchanging | .inflight _ | .subscribing | .waiting _ => s.pool.admission.closed = true
  | .active _ => Emptied s
  | .flush | .flushing _ => Drained s
  | .dirtyPlayers | .dirtySlots _ => Drained s ∧ d.flushed = some (.ok ())
  | .storing => Swept s ∧ d.flushed = some (.ok ())
  | .returned (.ok _) => s.state = .stopped
  | .returned (.error _) => Drained s

structure Settling (s : Runtime P A R E) : Prop where
  counted : Counted s
  calls : ∀ (j : Nat) d, s.shutdowns[j]? = some d → s.Knows d
  stopped : s.state = .stopped → Swept s

/-- What a call knows stays true. -/
theorem Knows.frame {d : Shutdown E} (knows : s.Knows d) (state : s.state = .stopped → t.state = .stopped)
    (closed : s.pool.admission.closed = true → t.pool.admission.closed = true)
    (emptied : Emptied s → Emptied t) (drained : Drained s → Drained t) (swept : Swept s → Swept t) :
    t.Knows d := by
  unfold Knows at knows ⊢
  cases phase : d.phase with
  | start | closing => trivial
  | exchanging | inflight notified | subscribing | waiting notified =>
    rw [phase] at knows
    exact closed knows
  | active notified =>
    rw [phase] at knows
    exact emptied knows
  | flush | flushing savers =>
    rw [phase] at knows
    exact drained knows
  | dirtyPlayers | dirtySlots players =>
    rw [phase] at knows
    exact ⟨drained knows.1, knows.2⟩
  | storing =>
    rw [phase] at knows
    exact ⟨swept knows.1, knows.2⟩
  | returned result =>
    rw [phase] at knows
    cases result with
    | ok done => exact state knows
    | error reason => exact drained knows

theorem stopped_step (taken : Step config.toLogicConfig s t) (stopped : s.state = .stopped) :
    t.state = .stopped := by
  cases taken with
  | exchange =>
    change (if s.state = .running then _ else s.state) = _
    rw [stopped]
    rfl
  | store => rfl
  | push => split <;> exact stopped
  | refuse => split <;> exact stopped
  | _ => exact stopped

theorem Settling.known_step (inv : Settling s) (serving : Serving config s)
    (taken : Step config.toLogicConfig s t) {d : Shutdown E} (knows : s.Knows d) : t.Knows d :=
  knows.frame (stopped_step taken) (fun closed => (serving.served.closed_step closed taken).1)
    (fun emptied => emptied.step serving.served taken)
    (fun drained => drained.step serving.served taken)
    (fun swept => swept.step serving.served inv.counted taken)

/-- A step of the call `j`. -/
theorem Settling.call (inv : Settling s) (serving : Serving config s)
    (taken : Step config.toLogicConfig s t) {j : Nat} {d' : Shutdown E}
    (shutdowns : t.shutdowns = s.shutdowns.set j d') (knows : t.Knows d') (i : Nat) (other : Shutdown E)
    (there : t.shutdowns[i]? = some other) :
    t.Knows other := by
  rw [shutdowns] at there
  cases Pool.get_set_cases there with
  | inl itself =>
    rw [itself.2]
    exact knows
  | inr apart => exact inv.known_step serving taken (inv.calls i other apart.2)

theorem ShutMove.knows (inv : Settling s) {j : Nat} {d d' : Shutdown E}
    (found : s.shutdowns[j]? = some d) (moved : ShutMove s d d') : s.Knows d' := by
  have knows := inv.calls j d found
  unfold Knows at knows
  cases moved with
  | stopped starting stopped => exact stopped
  | begin starting running => trivial
  | noCalls reading none =>
    rw [reading] at knows
    refine ⟨knows, ?_⟩
    rw [← Admission.inflightCalls_toNat, none]
    rfl
  | drained reading none =>
    rw [reading] at knows
    exact { knows with active := none }
  | @undrained phase reading waits =>
    have closed : s.pool.admission.closed = true := by
      obtain ⟨notified, inflight | active⟩ := reading
      · rw [inflight] at knows
        exact knows
      · rw [active] at knows
        exact knows.closed
    cases waits with
    | inl subscribing =>
      subst subscribing
      exact closed
    | inr waiting =>
      obtain ⟨notified, rfl⟩ := waiting
      exact closed
  | subscribe subscribing =>
    rw [subscribing] at knows
    exact knows
  | wake waiting notified =>
    rw [waiting] at knows
    exact knows
  | flushed flushing result =>
    rw [flushing] at knows
    exact ⟨knows, rfl⟩
  | flushFailed flushing result =>
    rw [flushing] at knows
    exact knows
  | players reading =>
    rw [reading] at knows
    exact knows
  | dirty reading some =>
    rw [reading] at knows
    exact knows.1
  | clean reading none noSlots =>
    rw [reading] at knows
    exact ⟨{ knows.1 with slots := noSlots }, knows.2⟩

theorem Settling.step (inv : Settling s) (serving : Serving config s)
    (taken : Step config.toLogicConfig s t) : Settling t where
  counted := inv.counted.step taken
  calls := by
    have same : t.shutdowns = s.shutdowns → ∀ (j : Nat) d, t.shutdowns[j]? = some d → t.Knows d := by
      intro shutdowns j d found
      rw [shutdowns] at found
      exact inv.known_step serving taken (inv.calls j d found)
    cases id taken with
    | shutdown =>
      intro j d found
      cases Pool.get_append_cases found with
      | inl new =>
        rw [new.2]
        trivial
      | inr before => exact inv.known_step serving taken (inv.calls j d before.2)
    | @shutMove j d d' found moved =>
      exact inv.call serving taken rfl (inv.known_step serving taken (moved.knows inv found))
    | @close j d pool found closing closed =>
      have isClosed : pool.admission.closed = true := by
        obtain rfl := Option.some.inj closed
        exact s.pool.admission.close_spec.1
      exact inv.call serving taken rfl isClosed
    | @exchange j d found exchanging =>
      have knows := inv.calls j d found
      unfold Knows at knows
      rw [exchanging] at knows
      exact inv.call serving taken rfl knows
    | @flush j d batches vault savers found flushing =>
      have knows := inv.calls j d found
      unfold Knows at knows
      rw [flushing] at knows
      exact inv.call serving taken rfl (Drained.step knows serving.served taken)
    | @store j d found storing => exact inv.call serving taken rfl rfl
    | push =>
      apply same
      split <;> rfl
    | refuse =>
      apply same
      split <;> rfl
    | _ => exact same rfl
  stopped := by
    have before : s.state = .stopped → Swept t :=
      fun stopped => (inv.stopped stopped).step serving.served inv.counted taken
    cases id taken with
    | exchange found exchanging =>
      intro stopped
      apply before
      change (if s.state = .running then _ else s.state) = _ at stopped
      split at stopped
      · cases stopped
      · exact stopped
    | @store j d found storing =>
      intro _
      have knows := inv.calls j d found
      unfold Knows at knows
      rw [storing] at knows
      exact knows.1.step serving.served inv.counted taken
    | push =>
      intro stopped
      apply before
      split at stopped <;> exact stopped
    | refuse =>
      intro stopped
      apply before
      split at stopped <;> exact stopped
    | _ => exact before

/-- A call that returned stays as it is. -/
theorem returned_step (taken : Step config.toLogicConfig s t) {j : Nat} {d : Shutdown E}
    (found : s.shutdowns[j]? = some d) (failed : d.phase.failed = true) : t.shutdowns[j]? = some d := by
  -- the call that moves has not returned
  have apart : ∀ {i : Nat} {e e' : Shutdown E}, s.shutdowns[i]? = some e → e.phase.failed = false →
      (s.shutdowns.set i e')[j]? = some d := by
    intro i e e' there busy
    by_cases same : i = j
    · subst same
      rw [found] at there
      obtain rfl := Option.some.inj there
      rw [failed] at busy
      cases busy
    · rw [Pool.get_set_ne _ same]
      exact found
  cases taken with
  | shutdown => exact Pool.get_append_of_some _ found
  | shutMove there moved =>
    apply apart there
    cases moved with
    | undrained reading =>
      obtain ⟨notified, inflight | active⟩ := reading
      · rw [inflight]; rfl
      · rw [active]; rfl
    | stopped phase | begin phase | noCalls phase | drained phase | subscribe phase | wake phase
    | flushed phase | flushFailed phase | players phase | dirty phase | clean phase =>
      rw [phase]
      rfl
  | close there phase => exact apart there (by rw [phase]; rfl)
  | exchange there phase => exact apart there (by rw [phase]; rfl)
  | flush there phase => exact apart there (by rw [phase]; rfl)
  | store there phase => exact apart there (by rw [phase]; rfl)
  | push => split <;> exact found
  | refuse => split <;> exact found
  | _ => exact found

/-- Only the call that finds everything saved moves the state to `Stopped`. -/
theorem stops_step (taken : Step config.toLogicConfig s t) (running : s.state ≠ .stopped)
    (stopped : t.state = .stopped) :
    ∃ (i : Nat) (d : Shutdown E), s.shutdowns[i]? = some d ∧ d.phase = .storing
      ∧ t.shutdowns = s.shutdowns.set i { d with phase := .returned (.ok ()) } := by
  cases taken with
  | @store i d found storing => exact ⟨i, d, found, storing, rfl⟩
  | exchange =>
    change (if s.state = .running then _ else s.state) = _ at stopped
    split at stopped
    · cases stopped
    · exact absurd stopped running
  | push =>
    exfalso
    split at stopped <;> exact running stopped
  | refuse =>
    exfalso
    split at stopped <;> exact running stopped
  | _ => exact absurd stopped running

/-! ## The main result -/

/-- No command is queued or running.  A slot can be in the directory only while
    the `enqueue` that inserted it holds the lock, and that call has no permit. -/
structure Quiesced (config : LogicConfig) (s : Runtime P A R E) : Prop where
  queues : ∀ (m : Nat) slot, s.slots[m]? = some slot → slot.queue = []
  runners : ∀ (i : Nat) r, s.runners[i]? = some r → r.phase.owns = false
  directory : ∀ gid m, s.directory gid = some m → ∃ (i : Nat) (e : Enqueue P A R),
    s.enqueues[i]? = some e ∧ e.gid = gid ∧ e.phase = .acquiring m true
      ∧ s.locks (config.directory gid) = some (.enqueue i) ∧ ¬ s.Holds i (.acquiring .permit)

theorem Drained.quiesced (drained : Drained s) (inv : Serving config s) (counted : Counted s) :
    Quiesced config.toLogicConfig s where
  queues := by
    intro m slot found
    cases queue : slot.queue with
    | nil => rfl
    | cons envelope rest =>
      have mapped := inv.filed m slot found (by simp [queue])
      have isEmpty := drained.queue inv.served slot.gid
      simp [Desk.queue, Runtime.desk, mapped, found, queue] at isEmpty
  runners := fun i r isRunner => drained.unserved counted isRunner
  directory := by
    intro gid m mapped
    obtain ⟨i, e, found, rfl, owns⟩ | ⟨i, r, isRunner, _, owns⟩ := inv.served.owned.owner mapped
    · refine ⟨i, e, found, rfl, ?_⟩
      have unpushed := drained.unpushed inv.served found
      cases phase : e.phase with
      | acquiring n spawnRunner =>
        have locked := inv.served.owned.enqueueLocks i e found (by rw [phase]; rfl)
        have there := inv.served.owned.ofEnqueue i e n found (by rw [phase]; rfl)
        rw [mapped] at there
        obtain rfl := Option.some.inj there
        rw [phase] at owns
        obtain rfl : spawnRunner = true := owns
        exact ⟨rfl, locked, drained.unheld inv.served i⟩
      | counting n => exact absurd phase (unpushed n).1
      | spawning n => exact absurd phase (unpushed n).2
      | _ =>
        rw [phase] at owns
        cases owns
    · rw [drained.unserved counted isRunner] at owns
      cases owns

theorem Drained.answered (drained : Drained s) (inv : Serving config s) (counted : Counted s) (gid : Gid) :
    s.answered gid = s.accepted gid := by
  have unserved : s.Unserved gid := by
    intro i r isRunner owns
    rw [drained.unserved counted isRunner] at owns
    cases owns
  have keeps := inv.served.dispatched.idle gid unserved
  have accepted : s.accepted gid = s.started gid ++ (s.desk gid).queue.map Envelope.id := keeps.accepted
  have started : s.started gid = s.answered gid ++ [] := keeps.started
  rw [accepted, started, drained.queue inv.served gid]
  simp

/-- All that is known of a state whose shutdown calls have come so far. -/
structure Shutting (config : ValidConfig) (s : Runtime P A R E) : Prop where
  serving : Serving config s
  settling : Settling s

theorem shutting_reach {C : Runtime P A R E → Label P A R E → Prop}
    (reached : (system P A R E config).Reach C s) : Shutting config s := by
  refine Step.inv (I := Shutting config) ⟨serving_initial config, ?_⟩ ?_ reached
  · refine ⟨rfl, ?_, ?_⟩
    · intro j d found
      simp [Runtime.initial] at found
    · intro stopped
      cases stopped
  · intro s t inv taken
    exact ⟨inv.serving.step taken, inv.settling.step inv.serving taken⟩

theorem Settling.drained (inv : Settling s) {j : Nat} {d : Shutdown E} (found : s.shutdowns[j]? = some d)
    (passed : d.phase.passed = true) : Drained s := by
  have knows := inv.calls j d found
  unfold Knows at knows
  cases phase : d.phase with
  | flush | flushing savers =>
    rw [phase] at knows
    exact knows
  | dirtyPlayers | dirtySlots players =>
    rw [phase] at knows
    exact knows.1
  | storing =>
    rw [phase] at knows
    exact knows.1.toDrained
  | returned result =>
    rw [phase] at knows
    cases result with
    | ok done => exact (inv.stopped knows).toDrained
    | error reason => exact knows
  | _ =>
    rw [phase] at passed
    cases passed

theorem Drained.run (drained : Drained s) (reached : (system P A R E config).Reach System.Any s)
    (run : (system P A R E config).Run System.Any s t) : Drained t ∧ t.accepted = s.accepted := by
  refine run.inv_with (I := fun t => Drained t ∧ t.accepted = s.accepted) (J := Shutting config)
    (fun _ known => shutting_reach known) ?_ reached ⟨drained, rfl⟩
  intro u label v inv before _ taken
  have sound := step_sound taken
  refine ⟨before.1.step inv.serving.served sound, ?_⟩
  rw [before.1.accepted_step inv.serving.served sound]
  exact before.2

theorem stopped_run (stopped : s.state = .stopped) (run : (system P A R E config).Run System.Any s t) :
    t.state = .stopped :=
  run.inv (I := fun t => t.state = .stopped) (fun _ _ _ before _ taken => stopped_step (step_sound taken) before)
    stopped

/-- From the moment on at which a shutdown call leaves its drain loop, for every
    interleaving: nothing is queued, running or accepted, and a slot is in the
    directory only inside the locked section of an `enqueue` that will be refused.
    After a call that returned `Ok` all accepted commands have their outcome, every
    player is saved and the state stays `Stopped`.  A call that returned `Err`
    leaves every unsaved player with its dirty slot and its mark.  Only a call
    whose own flush succeeded, and that found no dirty slot, moves the state to
    `Stopped`, and it returns `Ok`. -/
theorem shutdown_drains {config : ValidConfig} (reached : (system P A R E config).Reach System.Any s)
    {j : Nat} {d : Shutdown E} (found : s.shutdowns[j]? = some d)
    (run : (system P A R E config).Run System.Any s t) :
    (d.phase.passed = true → Quiesced config.toLogicConfig t ∧ t.accepted = s.accepted)
    ∧ (d.phase.succeeded = true → t.state = .stopped ∧ (∀ gid, t.answered gid = t.accepted gid)
      ∧ ∀ (c : Nat) cell, t.vault.cells[c]? = some cell → cell.dirty = false)
    ∧ (d.phase.failed = true → t.shutdowns[j]? = some d ∧ t.pool.admission.closed = true
      ∧ ∀ (c : Nat) cell, t.vault.cells[c]? = some cell → cell.dirty = true →
        cell.dirtySlot = true ∧ (cell.saveGate = none → c ∈ t.vault.dirtySince) ∧ t.state ≠ .stopped)
    ∧ ∀ label u, t.step config.toLogicConfig label = some u → t.state ≠ .stopped → u.state = .stopped →
      ∃ (i : Nat) (e : Shutdown E), t.shutdowns[i]? = some e ∧ e.phase = .storing
        ∧ e.flushed = some (.ok ()) ∧ t.vault.dirtySlots = 0
        ∧ u.shutdowns = t.shutdowns.set i { e with phase := .returned (.ok ()) } := by
  have before := shutting_reach reached
  have after := shutting_reach (reached.run run)
  have swept : t.state = .stopped → ∀ {c : Nat} {cell : PlayerCell P}, t.vault.cells[c]? = some cell →
      cell.dirty = false :=
    fun stopped _ _ there => (after.settling.stopped stopped).clean after.serving after.settling.counted there
  refine ⟨?_, ?_, ?_, ?_⟩
  · intro passed
    obtain ⟨drained, accepted⟩ := (before.settling.drained found passed).run reached run
    exact ⟨drained.quiesced after.serving after.settling.counted, accepted⟩
  · intro succeeded
    have knows := before.settling.calls j d found
    unfold Knows at knows
    have stopped : s.state = .stopped := by
      cases phase : d.phase with
      | returned result =>
        rw [phase] at knows succeeded
        cases result with
        | ok done => exact knows
        | error reason => cases succeeded
      | _ =>
        rw [phase] at succeeded
        cases succeeded
    have stays := stopped_run stopped run
    have drained := (after.settling.stopped stays).toDrained
    exact ⟨stays, drained.answered after.serving after.settling.counted, fun c cell there => swept stays there⟩
  · intro failed
    have passed : d.phase.passed = true := by
      cases phase : d.phase with
      | returned result => rfl
      | _ =>
        rw [phase] at failed
        cases failed
    obtain ⟨drained, _⟩ := (before.settling.drained found passed).run reached run
    have kept : t.shutdowns[j]? = some d :=
      run.inv (I := fun t => t.shutdowns[j]? = some d)
        (fun _ _ _ there _ taken => returned_step (step_sound taken) there failed) found
    refine ⟨kept, drained.closed, ?_⟩
    intro c cell there dirty
    have slot := drained.slotted after.serving after.settling.counted there dirty
    refine ⟨slot, ?_, ?_⟩
    · intro isFree
      have settled := Slotted.free after.serving.agree c cell there isFree
      simpa [Vault.marked] using settled.2.symm.trans slot
    · intro stopped
      rw [swept stopped there] at dirty
      cases dirty
  · intro label u taken running stopped
    obtain ⟨i, e, there, storing, shutdowns⟩ := stops_step (step_sound taken) running stopped
    have knows := after.settling.calls i e there
    unfold Knows at knows
    rw [storing] at knows
    exact ⟨i, e, there, storing, knows.2, knows.1.slots, shutdowns⟩

/-- A player earns a coin that is saved, and the runtime is shut down. -/
def earnAndStop : List PurseLabel :=
  [.tryUse 7 1 Purse.earn] ++ enqueueAll 0 true ++ proceed 0 1 ++ [.run 0 (.fetched Purse.empty) true]
    ++ proceed 0 9 ++ [.run 0 (.saved ⟨1, false⟩ true (.ok ())) true] ++ proceed 0 11
    ++ [.shutdown] ++ List.replicate 10 (.shut 0 [])

theorem earnAndStop_drains :
    ∃ s : PurseRuntime, s.accepted 7 = [0] ∧ s.state = .stopped ∧ s.answered 7 = s.accepted 7
      ∧ ∀ (c : Nat) cell, s.vault.cells[c]? = some cell → cell.dirty = false := by
  have run : ∃ s, System.follow System.Any (step LogicConfig.HARD_LIMITS) (initial .hardLimits) earnAndStop
      = some s ∧ s.accepted 7 = [0] ∧ (s.shutdowns[0]?).any (·.phase.succeeded) = true := by
    decide +kernel
  obtain ⟨s, followed, accepted, returned⟩ := run
  have reached : (system Purse Unit Unit Unit .hardLimits).Reach System.Any s :=
    System.reach_of_follow rfl followed
  cases found : s.shutdowns[0]? with
  | none => simp [found] at returned
  | some d =>
    have succeeded : d.phase.succeeded = true := by simpa [found] using returned
    obtain ⟨_, stopped, _⟩ := shutdown_drains reached found .refl
    obtain ⟨state, answers, clean⟩ := stopped succeeded
    exact ⟨s, accepted, state, answers 7, clean⟩

/-- A call that arrives after the drain inserts its slot before it asks the
    admission. -/
theorem slot_after_drain :
    ∃ s t : PurseRuntime, (system Purse Unit Unit Unit .hardLimits).Reach System.Any s
      ∧ (s.shutdowns[0]?).any (·.phase.passed) = true
      ∧ (system Purse Unit Unit Unit .hardLimits).Run System.Any s t ∧ t.directory 7 = some 0 := by
  have before : ∃ s : PurseRuntime, System.follow System.Any (step LogicConfig.HARD_LIMITS) (initial .hardLimits)
      ([.shutdown] ++ List.replicate 5 (.shut 0 [])) = some s
      ∧ (s.shutdowns[0]?).any (·.phase.passed) = true
      ∧ ∃ t, System.follow System.Any (step LogicConfig.HARD_LIMITS) s
        [.tryUse 7 1 Purse.earn, .lock 0] = some t ∧ t.directory 7 = some 0 := by
    decide +kernel
  obtain ⟨s, followed, passed, t, followed', mapped⟩ := before
  exact ⟨s, t, System.reach_of_follow rfl followed, passed, System.run_of_follow followed', mapped⟩

end Drain

end Runtime

end Xkk.Logic
