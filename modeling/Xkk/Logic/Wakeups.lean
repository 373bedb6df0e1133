import Xkk.Logic.Shutdown

/-! # Wakeups of the drain loop

A shutdown call that finds the runtime undrained creates its `Notified` future,
looks a second time and then waits.  The runners notify after each decrement of
the two counters.  `acquire` decrements `calls` as well, when the KiB of a call
that already won its slot are refused, and notifies nobody: this `SilentReturn`
is the only way in which a wakeup is lost.
-/

set_option linter.unusedSectionVars false

namespace Xkk.Logic

open Xkk.Lib

variable {P A R E : Type} [LogicState P]

/-- The mark of the `Notified` future that the call holds. -/
def ShutdownPhase.notified : ShutdownPhase E → Option Nat
  | .inflight notified | .active notified => notified
  | .waiting notified => some notified
  | _ => none

namespace Runtime

variable {config : LogicConfig} {s t : Runtime P A R E}

/-- A shutdown call is suspended and no wakeup was delivered to it. -/
def Suspended (s : Runtime P A R E) : Prop :=
  ∃ (j : Nat) (d : Shutdown E) (notified : Nat),
    s.shutdowns[j]? = some d ∧ d.phase = .waiting notified ∧ ¬ notified < s.wakeups

/-- The call is suspended although it could go on, and no runner is left that
    would notify it. -/
structure LostWakeup (config : LogicConfig) (s : Runtime P A R E) : Prop where
  suspended : s.Suspended
  inflight : s.pool.admission.inflightCalls = 0
  active : s.activeGids = 0
  runners : ∀ i choice ok, s.step config (.run i choice ok) = none

/-- An `acquire` whose KiB were refused returns the last call slot, while a
    shutdown call is suspended and no runner is going to notify. -/
def SilentReturn (s : Runtime P A R E) (l : Label P A R E) : Prop :=
  ∃ (i : Nat) (spurious : Bool), l = .acquire i spurious ∧ s.Holds i (.acquiring .giveBack)
    ∧ s.pool.admission.inflight = 1 ∧ s.activeGids = 0
    ∧ (∀ (k : Nat) r, s.runners[k]? = some r → r.phase.leaves = false) ∧ s.Suspended

/-! ## Who is going to notify -/

/-- A call in flight, a counted player or a runner between its decrement of
    `active_gids` and the notification. -/
def Attended (s : Runtime P A R E) : Prop :=
  s.pool.admission.inflight ≠ 0 ∨ s.activeGids ≠ 0
    ∨ ∃ (k : Nat) (r : Runner P A R E), s.runners[k]? = some r ∧ r.phase.leaves = true

theorem Attended.frame (attended : s.Attended)
    (inflight : t.pool.admission.inflight = s.pool.admission.inflight)
    (active : t.activeGids = s.activeGids) (runners : t.runners = s.runners) : t.Attended := by
  unfold Attended at attended ⊢
  rw [inflight, active, runners]
  exact attended

theorem Counted.active_of_owns (inv : Counted s) {i : Nat} {r : Runner P A R E}
    (isRunner : s.runners[i]? = some r) (owns : r.phase.owns = true) : s.activeGids ≠ 0 := by
  have weight := Pool.weight_le_total (fun r : Runner P A R E => r.phase.owns.toNat) isRunner
  simp only [owns, Bool.toNat_true] at weight
  simp only [Counted] at inv
  omega

/-- A runner leaves a state that is attended, or notifies. -/
theorem Runs.attended (inv : Counted s) {i : Nat} {r : Runner P A R E} {choice : Choice P A E} {ok : Bool}
    (isRunner : s.runners[i]? = some r) (runs : Runs config s i r choice ok t) :
    t.shutdowns = s.shutdowns
      ∧ (t.wakeups = s.wakeups ∧ t.Attended ∨ t.wakeups = s.wakeups + 1) := by
  have counted : r.phase.owns = true → s.activeGids ≠ 0 := inv.active_of_owns isRunner
  cases runs with
  | take either =>
    refine ⟨rfl, .inl ⟨rfl, .inr (.inl (counted ?_))⟩⟩
    cases either with
    | inl taking => rw [taking]; rfl
    | inr checking => rw [checking]; rfl
  | notifyNext => exact ⟨rfl, .inr rfl⟩
  | notifyLast => exact ⟨rfl, .inr rfl⟩
  | leave => exact ⟨rfl, .inr rfl⟩
  | retire checking =>
    -- the counter may be zero now, and this runner notifies next
    exact ⟨rfl, .inl ⟨rfl, .inr (.inr ⟨i, _, Pool.get_set_self _ isRunner, rfl⟩)⟩⟩
  | serve phase | finish phase | completeNext phase | completeLast phase | drop phase | dropKib phase
  | peek phase | peekNone phase | insert phase | slotDisappeared phase | emptyMailbox phase
  | inflightAtRetirement phase | differentGeneration phase =>
    exact ⟨rfl, .inl ⟨rfl, .inr (.inl (counted (by rw [phase]; rfl)))⟩⟩
  | lostSlot either =>
    refine ⟨rfl, .inl ⟨rfl, .inr (.inl (counted ?_))⟩⟩
    obtain taking | ⟨envelope, completing⟩ | checking := either
    · rw [taking]; rfl
    · rw [completing]; rfl
    · rw [checking]; rfl

/-! ## The steps of the others -/

/-- What a step of `shutdown` makes of the call `d` that takes it: a new future is
    marked with the present number of wakeups, and the call waits only after it
    has seen one of the counters above zero. -/
structure Watches (s : Runtime P A R E) (d d' : Shutdown E) : Prop where
  marked : ∀ n, d'.phase.notified = some n → n = s.wakeups ∨ d.phase.notified = some n
  waits : ∀ n, d'.phase = .waiting n → s.pool.admission.inflight ≠ 0 ∨ s.activeGids ≠ 0

theorem Watches.unmarked {d d' : Shutdown E} (unmarked : d'.phase.notified = none) : Watches s d d' where
  marked := by
    intro n marked
    rw [unmarked] at marked
    cases marked
  waits := by
    intro n waits
    rw [waits] at unmarked
    cases unmarked

theorem undrained_watches {j : Nat} {d : Shutdown E} {notified : Option Nat}
    (reading : d.phase.notified = notified)
    (undrained : s.pool.admission.inflight ≠ 0 ∨ s.activeGids ≠ 0) :
    ∃ d', s.undrained j d notified = { s with shutdowns := s.shutdowns.set j d' } ∧ Watches s d d' := by
  cases notified with
  | none => exact ⟨_, rfl, .unmarked rfl⟩
  | some notified =>
    refine ⟨_, rfl, ?_, fun _ _ => undrained⟩
    intro n marked
    exact .inr (reading.trans marked)

theorem shut_watches {j : Nat} {d : Shutdown E} {batches : List (List Nat)}
    (taken : s.shut j d batches = some t) :
    t.pool.admission.inflight = s.pool.admission.inflight ∧ t.activeGids = s.activeGids
      ∧ t.runners = s.runners ∧ t.wakeups = s.wakeups
      ∧ ∃ d', t.shutdowns = s.shutdowns.set j d' ∧ Watches s d d' := by
  unfold Runtime.shut at taken
  split at taken
  case h_1 start =>
    obtain rfl := Option.some.inj taken
    split <;> exact ⟨rfl, rfl, rfl, rfl, _, rfl, .unmarked rfl⟩
  case h_2 closing =>
    obtain ⟨pool, closed, rfl⟩ := Option.map_eq_some_iff.mp taken
    obtain rfl := Option.some.inj closed
    exact ⟨s.pool.admission.close_spec.2, rfl, rfl, rfl, _, rfl, .unmarked rfl⟩
  case h_4 notified reading =>
    obtain rfl := Option.some.inj taken
    split
    case isTrue zero =>
      refine ⟨rfl, rfl, rfl, rfl, _, rfl, ?_, nofun⟩
      intro n marked
      rw [reading]
      exact .inr marked
    case isFalse some =>
      have inflight : s.pool.admission.inflight ≠ 0 := fun zero => some (UInt64.toNat_inj.mp zero)
      have isMark : d.phase.notified = notified := by rw [reading]; rfl
      obtain ⟨d', isSet, watches⟩ := undrained_watches (j := j) isMark (.inl inflight)
      rw [isSet]
      exact ⟨rfl, rfl, rfl, rfl, d', rfl, watches⟩
  case h_5 notified reading =>
    obtain rfl := Option.some.inj taken
    split
    case isTrue zero => exact ⟨rfl, rfl, rfl, rfl, _, rfl, .unmarked rfl⟩
    case isFalse active =>
      have isMark : d.phase.notified = notified := by rw [reading]; rfl
      obtain ⟨d', isSet, watches⟩ := undrained_watches (j := j) isMark (.inr active)
      rw [isSet]
      exact ⟨rfl, rfl, rfl, rfl, d', rfl, watches⟩
  case h_6 subscribing =>
    obtain rfl := Option.some.inj taken
    refine ⟨rfl, rfl, rfl, rfl, _, rfl, ?_, nofun⟩
    intro n marked
    exact .inl (Option.some.inj marked).symm
  case h_7 notified waiting =>
    simp only [Option.ite_none_right_eq_some, Option.some.injEq] at taken
    obtain ⟨_, rfl⟩ := taken
    exact ⟨rfl, rfl, rfl, rfl, _, rfl, .unmarked rfl⟩
  case h_8 flush =>
    simp only [Runtime.flush, Option.ite_none_right_eq_some, Option.map_eq_some_iff] at taken
    obtain ⟨_, vault, _, rfl⟩ := taken
    exact ⟨rfl, rfl, rfl, rfl, _, rfl, .unmarked rfl⟩
  case h_9 savers flushing =>
    obtain ⟨result, _, rfl⟩ := Option.map_eq_some_iff.mp taken
    cases result <;> exact ⟨rfl, rfl, rfl, rfl, _, rfl, .unmarked rfl⟩
  case h_11 players reading =>
    obtain rfl := Option.some.inj taken
    split <;> exact ⟨rfl, rfl, rfl, rfl, _, rfl, .unmarked rfl⟩
  case h_3 | h_10 | h_12 =>
    obtain rfl := Option.some.inj taken
    exact ⟨rfl, rfl, rfl, rfl, _, rfl, .unmarked rfl⟩
  case h_13 => cases taken

/-! ## What every run keeps -/

/-- A mark is not larger than the number of wakeups. -/
def Marked (s : Runtime P A R E) : Prop :=
  ∀ (j : Nat) d n, s.shutdowns[j]? = some d → d.phase.notified = some n → n ≤ s.wakeups

structure Watched (s : Runtime P A R E) : Prop where
  marked : Marked s
  attended : s.Suspended → s.Attended

theorem Marked.unsuspended (inv : Marked s) (shutdowns : t.shutdowns = s.shutdowns)
    (wakeups : t.wakeups = s.wakeups + 1) : ¬ t.Suspended := by
  rintro ⟨j, d, n, found, waits, unwoken⟩
  rw [shutdowns] at found
  have bound := inv j d n found (by rw [waits]; rfl)
  omega

theorem Suspended.frame (suspended : t.Suspended) (shutdowns : t.shutdowns = s.shutdowns)
    (wakeups : t.wakeups = s.wakeups) : s.Suspended := by
  obtain ⟨j, d, n, found, waits, unwoken⟩ := suspended
  rw [shutdowns] at found
  rw [wakeups] at unwoken
  exact ⟨j, d, n, found, waits, unwoken⟩

theorem Marked.frame (inv : Marked s) (shutdowns : t.shutdowns = s.shutdowns)
    (wakeups : s.wakeups ≤ t.wakeups) : Marked t := by
  intro j d n found marked
  rw [shutdowns] at found
  exact (inv j d n found marked).trans wakeups

theorem Watched.frame (inv : Watched s) (pool : t.pool = s.pool) (active : t.activeGids = s.activeGids)
    (runners : t.runners = s.runners) (wakeups : t.wakeups = s.wakeups)
    (shutdowns : t.shutdowns = s.shutdowns) : Watched t where
  marked := inv.marked.frame shutdowns wakeups.ge
  attended := by
    intro suspended
    have before := inv.attended (suspended.frame shutdowns wakeups)
    exact before.frame (by rw [pool]) active runners

theorem Watched.unmoved (inv : Watched s) (same : Unmoved s t) : Watched t :=
  inv.frame same.pool same.active same.runners same.wakeups same.shutdowns

theorem Watched.run (inv : Watched s) (counted : Counted s) {i : Nat} {r : Runner P A R E}
    {choice : Choice P A E} {ok : Bool} (isRunner : s.runners[i]? = some r)
    (runs : Runs config s i r choice ok t) : Watched t := by
  obtain ⟨shutdowns, moved⟩ := runs.attended counted isRunner
  cases moved with
  | inl silent =>
    obtain ⟨wakeups, attended⟩ := silent
    exact ⟨inv.marked.frame shutdowns wakeups.ge, fun _ => attended⟩
  | inr wakeups =>
    refine ⟨inv.marked.frame shutdowns (by omega), ?_⟩
    intro suspended
    exact absurd suspended (inv.marked.unsuspended shutdowns wakeups)

theorem Watched.shut (inv : Watched s) {j : Nat} {d : Shutdown E} {batches : List (List Nat)}
    (found : s.shutdowns[j]? = some d) (taken : s.shut j d batches = some t) : Watched t := by
  obtain ⟨inflight, active, runners, wakeups, d', shutdowns, watches⟩ := shut_watches taken
  constructor
  · intro k e n there marked
    rw [shutdowns] at there
    rw [wakeups]
    rcases Pool.get_set_cases there with ⟨rfl, rfl⟩ | ⟨_, before⟩
    · cases watches.marked n marked with
      | inl now => exact now.le
      | inr earlier => exact inv.marked j d n found earlier
    · exact inv.marked k e n before marked
  · rintro ⟨k, e, n, there, waits, unwoken⟩
    rw [shutdowns] at there
    rw [wakeups] at unwoken
    rcases Pool.get_set_cases there with ⟨rfl, rfl⟩ | ⟨_, before⟩
    · have undrained := watches.waits n waits
      rw [← inflight, ← active] at undrained
      exact undrained.imp_right .inl
    · exact (inv.attended ⟨k, e, n, before, waits, unwoken⟩).frame inflight active runners

theorem tick_inflight {config : ValidConfig} {pool pool' : AdmissionPool.State} {i : Nat} {spurious : Bool}
    (inv : AdmissionPool.Accounted config pool)
    (taken : AdmissionPool.step pool (.tick i spurious) = some pool') :
    pool.admission.inflight ≤ pool'.admission.inflight
      ∨ (pool.holders[i]?).map AdmissionPool.Holder.phase = some (.acquiring .giveBack) := by
  rcases AdmissionPool.step_cases taken with
    ⟨_, isAcquire, _⟩ | ⟨_, _, h, phase, admission, next, same, found, acquiring, acquired, rfl⟩ |
      ⟨_, _, h, same, found, dropping, rfl⟩ | ⟨_, _, isDrop, _⟩ | ⟨isClose, _⟩
  · cases isAcquire
  · cases same
    rcases Admission.acquireStep_cases acquired with
      ⟨rfl, _⟩ | ⟨rfl, rfl, rfl⟩ | ⟨rfl, rfl, rfl⟩ | ⟨_, rfl, rfl, _, rfl⟩
    · exact .inl (Nat.le_refl _)
    · have small := config.maxInflightCalls_lt
      have passed := inv.passed i h _ found acquiring
      rw [← inv.maxCalls] at small passed
      obtain ⟨_, _, counted, _⟩ := Admission.takeCalls_spec small passed
      exact .inl (by dsimp only; omega)
    · exact .inr (by rw [found, Option.map_some, acquiring])
    · exact .inl (Nat.le_refl _)
  · exact .inl (Nat.le_refl _)
  · cases isDrop
  · cases isClose

theorem Holds.subtractsCall {i : Nat} (givesBack : s.Holds i (.acquiring .giveBack)) (spurious : Bool) :
    AdmissionPool.subtractsCall s.pool (.tick i spurious) = true := by
  obtain ⟨h, isHolder, isPhase⟩ := Option.map_eq_some_iff.mp givesBack
  simp [AdmissionPool.subtractsCall, isHolder, isPhase]

/-- One operation of `acquire` leaves somebody who notifies, unless it is the silent
    return of the last call slot. -/
theorem Attended.acquire {config : ValidConfig} (attended : s.Attended) (suspended : s.Suspended)
    (accounted : AdmissionPool.Accounted config s.pool) {i : Nat} {spurious : Bool}
    {pool : AdmissionPool.State} (taken : AdmissionPool.step s.pool (.tick i spurious) = some pool) :
    ({ s with pool := pool } : Runtime P A R E).Attended ∨ s.SilentReturn (.acquire i spurious) := by
  by_cases stays : ({ s with pool := pool } : Runtime P A R E).Attended
  · exact .inl stays
  -- nobody is left in `t`, so the call in flight was the one that was returned
  simp only [Attended, not_or, ne_eq, not_not, not_exists, not_and, Bool.not_eq_true] at stays
  obtain ⟨none, inactive, unleft⟩ := stays
  have some : s.pool.admission.inflight ≠ 0 := by
    obtain inflight | active | ⟨k, r, isRunner, leaves⟩ := attended
    · exact inflight
    · exact absurd inactive active
    · rw [unleft k r isRunner] at leaves
      cases leaves
  cases tick_inflight accounted taken with
  | inl more => omega
  | inr givesBack =>
    obtain ⟨_, _, fewer⟩ :=
      AdmissionPool.subtractsCall_exact accounted taken (Holds.subtractsCall givesBack spurious)
    exact .inr ⟨i, spurious, rfl, givesBack, by omega, inactive, unleft, suspended⟩

theorem Watched.step {config : ValidConfig} (inv : Watched s) (known : Shutting config s) {l : Label P A R E}
    (taken : s.step config.toLogicConfig l = some t) (loud : ¬ s.SilentReturn l) : Watched t := by
  cases l with
  | tryUse gid retainedKib command =>
    simp only [Runtime.step, Runtime.tryUse, Option.map_eq_some_iff] at taken
    obtain ⟨pool, acquired, rfl⟩ := taken
    obtain rfl := Option.some.inj acquired
    exact ⟨inv.marked, fun suspended => (inv.attended suspended).frame rfl rfl rfl⟩
  | lock i =>
    obtain ⟨e, found, taken⟩ := Option.bind_eq_some_iff.mp taken
    exact inv.unmoved (lock_unmoved taken)
  | acquire i spurious =>
    obtain ⟨e, found, taken⟩ := Option.bind_eq_some_iff.mp taken
    unfold Runtime.acquire at taken
    split at taken
    case h_1 m spawnRunner acquiring =>
      obtain ⟨pool, ticked, rfl⟩ := Option.map_eq_some_iff.mp taken
      refine ⟨inv.marked, ?_⟩
      intro suspended
      have before : s.Suspended := suspended.frame rfl rfl
      cases (inv.attended before).acquire before known.serving.served.permitted.accounted ticked with
      | inl attended => exact attended
      | inr silent => exact absurd silent loud
    case h_2 => cases taken
  | acquired i =>
    obtain ⟨e, found, taken⟩ := Option.bind_eq_some_iff.mp taken
    exact inv.unmoved (acquired_unmoved taken)
  | count i =>
    obtain ⟨e, found, taken⟩ := Option.bind_eq_some_iff.mp taken
    unfold Runtime.count at taken
    split at taken
    case h_1 m counting =>
      obtain rfl := Option.some.inj taken
      exact ⟨inv.marked, fun _ => .inr (.inl (Nat.succ_ne_zero _))⟩
    case h_2 => cases taken
  | spawn i =>
    obtain ⟨e, found, taken⟩ := Option.bind_eq_some_iff.mp taken
    unfold Runtime.spawn at taken
    split at taken
    case h_1 m spawning =>
      obtain rfl := Option.some.inj taken
      refine ⟨inv.marked, ?_⟩
      intro suspended
      obtain inflight | active | ⟨k, r, isRunner, leaves⟩ := inv.attended (suspended.frame rfl rfl)
      · exact .inl inflight
      · exact .inr (.inl active)
      · exact .inr (.inr ⟨k, r, Pool.get_append_of_some _ isRunner, leaves⟩)
    case h_2 => cases taken
  | run i choice ok =>
    obtain ⟨r, isRunner, taken⟩ := Option.bind_eq_some_iff.mp taken
    exact inv.run known.settling.counted isRunner (runs_of_run taken)
  | startSaver entries evicts =>
    obtain ⟨vault, started, rfl⟩ := Option.map_eq_some_iff.mp taken
    exact inv.frame rfl rfl rfl rfl rfl
  | save k choice =>
    simp only [Runtime.step, Option.bind_eq_some_iff, Option.map_eq_some_iff] at taken
    obtain ⟨saver, isSaver, vault, saved, rfl⟩ := taken
    exact inv.frame rfl rfl rfl rfl rfl
  | evict gid =>
    obtain ⟨vault, evicted, rfl⟩ := Option.map_eq_some_iff.mp taken
    exact inv.frame rfl rfl rfl rfl rfl
  | evicted k gid =>
    obtain ⟨vault, evicted, rfl⟩ := Option.map_eq_some_iff.mp taken
    exact inv.frame rfl rfl rfl rfl rfl
  | shutdown =>
    obtain rfl := Option.some.inj taken
    constructor
    · intro j d n found marked
      rcases Pool.get_append_cases found with ⟨_, rfl⟩ | ⟨_, before⟩
      · cases marked
      · exact inv.marked j d n before marked
    · rintro ⟨j, d, n, found, waits, unwoken⟩
      rcases Pool.get_append_cases found with ⟨_, rfl⟩ | ⟨_, before⟩
      · cases waits
      · exact (inv.attended ⟨j, d, n, before, waits, unwoken⟩).frame rfl rfl rfl
  | shut j batches =>
    obtain ⟨d, found, taken⟩ := Option.bind_eq_some_iff.mp taken
    exact inv.shut found taken

/-! ## The main result -/

/-- A lost wakeup is a suspended call that nobody attends to. -/
theorem lostWakeup_iff (counted : Counted s) : LostWakeup config s ↔ s.Suspended ∧ ¬ s.Attended := by
  constructor
  · intro lost
    refine ⟨lost.suspended, ?_⟩
    rintro (inflight | active | ⟨k, r, isRunner, leaves⟩)
    · apply inflight
      rw [← Admission.inflightCalls_toNat, lost.inflight]
      rfl
    · exact active lost.active
    · have stuck := lost.runners k .go true
      cases phase : r.phase with
      | leaving => simp [Runtime.step, isRunner, Runtime.run, phase] at stuck
      | _ =>
        rw [phase] at leaves
        cases leaves
  · rintro ⟨suspended, unattended⟩
    simp only [Attended, not_or, ne_eq, not_not, not_exists, not_and, Bool.not_eq_true] at unattended
    obtain ⟨none, inactive, unleft⟩ := unattended
    refine ⟨suspended, UInt64.toNat_inj.mp none, inactive, ?_⟩
    intro i choice ok
    cases isRunner : s.runners[i]? with
    | none => simp [Runtime.step, isRunner]
    | some r =>
      have gone : r.phase = .done := by
        have stays := unleft i r isRunner
        have unowned : r.phase.owns ≠ true := fun owns => counted.active_of_owns isRunner owns inactive
        cases phase : r.phase with
        | done => rfl
        | leaving =>
          rw [phase] at stays
          cases stays
        | _ =>
          rw [phase] at unowned
          exact absurd rfl unowned
      simp [Runtime.step, isRunner, Runtime.run, gone]

theorem watched_reach {config : ValidConfig}
    (reached : (system P A R E config).Reach (fun s l => ¬ s.SilentReturn l) s) : Watched s := by
  refine reached.inv_with (J := Shutting config) (fun _ known => shutting_reach known) ?_ ?_
  · rintro s rfl
    constructor
    · intro j d n found
      simp [Runtime.initial] at found
    · rintro ⟨j, d, n, found, _⟩
      simp [Runtime.initial] at found
  · intro s l t known inv loud taken
    exact inv.step known taken loud

/-- A silent return drains the runtime behind the back of the suspended call. -/
theorem SilentReturn.lost {config : ValidConfig} (known : Shutting config s) {l : Label P A R E}
    (silent : s.SilentReturn l) (taken : s.step config.toLogicConfig l = some t) :
    t.Suspended ∧ ¬ t.Attended := by
  obtain ⟨i, spurious, rfl, givesBack, last, inactive, unleft, suspended⟩ := silent
  obtain ⟨e, found, taken⟩ := Option.bind_eq_some_iff.mp taken
  unfold Runtime.acquire at taken
  split at taken
  case h_1 m spawnRunner acquiring =>
    obtain ⟨pool, ticked, rfl⟩ := Option.map_eq_some_iff.mp taken
    refine ⟨suspended.frame rfl rfl, ?_⟩
    obtain ⟨_, _, fewer⟩ := AdmissionPool.subtractsCall_exact known.serving.served.permitted.accounted
      ticked (givesBack.subtractsCall spurious)
    rintro (inflight | active | ⟨k, r, isRunner, leaves⟩)
    · exact inflight (by dsimp only; omega)
    · exact active inactive
    · rw [unleft k r isRunner] at leaves
      cases leaves
  case h_2 => cases taken

/-- In every interleaving of shutdown calls, runners, `enqueue` calls and savers in
    which no `acquire` silently returns the last call slot, no wakeup is lost; and
    the next step loses one exactly when it is such a return. -/
theorem drain_wakes_unless_silent_return {config : ValidConfig}
    (reached : (system P A R E config).Reach (fun s l => ¬ s.SilentReturn l) s) :
    ¬ LostWakeup config.toLogicConfig s
    ∧ ∀ l t, s.step config.toLogicConfig l = some t →
      (LostWakeup config.toLogicConfig t ↔ s.SilentReturn l) := by
  have known := shutting_reach reached
  have watched := watched_reach reached
  constructor
  · rw [lostWakeup_iff known.settling.counted]
    rintro ⟨suspended, unattended⟩
    exact unattended (watched.attended suspended)
  · intro l t taken
    rw [lostWakeup_iff (known.settling.counted.step (step_sound taken))]
    constructor
    · rintro ⟨suspended, unattended⟩
      by_contra loud
      exact unattended ((watched.step known taken loud).attended suspended)
    · intro silent
      exact silent.lost known taken

/-- No call asks the admission once a shutdown has begun. -/
def asksBefore (s : PurseRuntime) : PurseLabel → Bool
  | .acquire _ _ => s.shutdowns.isEmpty
  | _ => true

/-- A player's command is in flight and the shutdown call waits for it. -/
def stopWhileEarning : List PurseLabel :=
  [.tryUse 7 1 Purse.earn] ++ enqueueAll 0 true ++ [.shutdown] ++ List.replicate 6 (.shut 0 [])

theorem stopWhileEarning_waits :
    ∃ s : PurseRuntime, s.Suspended ∧ ¬ LostWakeup LogicConfig.HARD_LIMITS s
      ∧ ∀ l t, s.step LogicConfig.HARD_LIMITS l = some t →
        (LostWakeup LogicConfig.HARD_LIMITS t ↔ s.SilentReturn l) := by
  have run : ∃ s, System.follow (fun s l => asksBefore s l = true) (step LogicConfig.HARD_LIMITS)
      (initial .hardLimits) stopWhileEarning = some s
      ∧ ∃ d, s.shutdowns[0]? = some d ∧ d.phase = .waiting 0 ∧ ¬ 0 < s.wakeups := by
    refine ⟨_, rfl, _, rfl, rfl, by decide⟩
  obtain ⟨s, followed, d, found, waits, unwoken⟩ := run
  have loud : ∀ (s : PurseRuntime) l, asksBefore s l = true → ¬ s.SilentReturn l := by
    rintro s l asks ⟨i, spurious, rfl, _, _, _, _, j, d, _, there, _⟩
    simp only [asksBefore, List.isEmpty_iff] at asks
    simp [asks] at there
  have asked : (system Purse Unit Unit Unit .hardLimits).Reach (fun s l => asksBefore s l = true) s :=
    System.reach_of_follow rfl followed
  exact ⟨s, ⟨0, d, 0, found, waits, unwoken⟩, drain_wakes_unless_silent_return (asked.mono loud)⟩

/-- One KiB may be in flight. -/
def oneKib : ValidConfig := ⟨{ LogicConfig.HARD_LIMITS with maxInflightKib := 1 }, by decide⟩

/-- A call of two KiB wins its call slot, the shutdown call sees it twice and waits,
    and the slot is returned. -/
def stopWhileRefusing : List PurseLabel :=
  [.tryUse 7 2 Purse.earn, .lock 0, .acquire 0 false, .acquire 0 false, .shutdown]
    ++ List.replicate 6 (.shut 0 []) ++ [.acquire 0 false, .acquire 0 false, .acquire 0 false]

theorem refused_call_loses_wakeup :
    ∃ s : PurseRuntime, (system Purse Unit Unit Unit oneKib).Reach System.Any s
      ∧ LostWakeup oneKib.toLogicConfig s := by
  have run : ∃ s, System.follow System.Any (step oneKib.toLogicConfig) (initial oneKib) stopWhileRefusing
      = some s ∧ s.runners = [] ∧ s.pool.admission.inflightCalls = 0 ∧ s.activeGids = 0
      ∧ ∃ d, s.shutdowns[0]? = some d ∧ d.phase = .waiting 0 ∧ ¬ 0 < s.wakeups := by
    refine ⟨_, rfl, rfl, by decide, rfl, _, rfl, rfl, by decide⟩
  obtain ⟨s, followed, none, inflight, active, d, found, waits, unwoken⟩ := run
  refine ⟨s, System.reach_of_follow rfl followed, ⟨0, d, 0, found, waits, unwoken⟩, inflight, active, ?_⟩
  intro i choice ok
  simp [Runtime.step, none]

end Runtime

end Xkk.Logic
