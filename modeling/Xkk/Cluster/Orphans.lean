import Xkk.Cluster.Execution

/-! # Sessions that Logic keeps

Logic records a session before its Gate installs it.  A handler that ends in
between, or a path that ends an installed session without a
`LogicDisconnectNtf`, leaves Logic with a session that no Gate holds.

`Tidy` lists what has to be avoided, one condition for each such path, and
`tidy_runs_leave_no_orphan` shows that nothing else can go wrong.
-/

namespace Xkk.Cluster

open Xkk.Lib Xkk.Gate

def Phase.completing? : Phase → Option Nat
  | .completing arc => some arc
  | _ => none

/-- The session that the task is about to notify Logic of. -/
def Task.notifies? : Task → Option Sess
  | .notify x _ => some x
  | _ => none

namespace State

variable {s t : State}

/-- Logic's session is an active session of the Gate that it names. -/
def NoOrphan (s : State) : Prop := ∀ x ∈ s.session, s.Live x

instance (s : State) : Decidable s.NoOrphan :=
  inferInstanceAs (Decidable (∀ x ∈ s.session, s.Live x))

/-- Logic neither records the session nor is going to. -/
def Released (s : State) (x : Sess) : Prop :=
  s.session ≠ some x ∧ x ∉ s.requests.map Prod.fst ∧ ∀ c ∈ s.busy, c.sess ≠ x

instance (s : State) (x : Sess) : Decidable (s.Released x) :=
  inferInstanceAs (Decidable (_ ∧ _ ∧ ∀ c ∈ s.busy, _ ≠ _))

/-- `complete_reconnect` is going to succeed. -/
def completes (s : State) (h : Handler) (passes : Bool) : Bool :=
  match h.phase, h.previous with
  | .completing arc, some previous =>
    passes && s.arcs[arc]?.any (·.sess = ⟨h.sess.gate, previous⟩)
  | _, _ => false

def TidyTask (s : State) : Task → Prop
  | .kickArc x false arc => s.arcs[arc]? = some ⟨x, true⟩ → s.session ≠ some x
  | .kickRemove x _ arc => s.table x.gate = some arc → ∀ slot ∈ s.arcs[arc]?, slot.active = false
  | _ => True

instance (s : State) (task : Task) : Decidable (s.TidyTask task) :=
  match task with
  | .kickArc _ false _ => inferInstanceAs (Decidable (_ → _ ≠ _))
  | .kickRemove _ _ arc => inferInstanceAs (Decidable (_ → ∀ slot ∈ s.arcs[arc]?, _ = _))
  | .kickArc _ true _ | .disconnect _ | .disconnectArc _ _ | .kick _ _ | .logout _ | .logoutArc _ _
  | .invalidate _ | .notify _ _ | .clear _ _ | .done => .isTrue trivial

def Tidy (s : State) : Label → Prop
  -- whatever ends a handler after it asked Logic
  | .giveUp i => ∀ h ∈ s.handlers[i]?, h.phase.pending = true → s.Released h.sess
  | .receive i => ∀ h ∈ s.handlers[i]?, ∀ response ∈ s.responses.find? (·.1 = h.sess),
      response.2 = false → s.Released h.sess
  | .fetch i => ∀ h ∈ s.handlers[i]?, h.phase = .granted → s.table h.sess.gate = none →
      s.Released h.sess
  | .complete i passes => ∀ h ∈ s.handlers[i]?,
      if s.completes h passes then
        ∀ arc ∈ h.phase.completing?, s.table h.sess.gate = some arc ∨ s.session ≠ some h.sess
      else s.Released h.sess
  -- whatever takes an installed session out of the table
  | .install i => ∀ h ∈ s.handlers[i]?, ∀ slot ∈ (s.table h.sess.gate).bind (s.arcs[·]?),
      slot.active = true → s.session ≠ some slot.sess
  | .task i => ∀ task ∈ s.tasks[i]?, s.TidyTask task
  | .abort i => ∀ task ∈ s.tasks[i]?, ∀ x ∈ task.notifies?, s.session ≠ some x
  -- the notice arrives but its command is not accepted
  | .notice k accepted => accepted = false → ∀ x ∈ s.notices[k]?, s.session ≠ some x
  | _ => True

instance (s : State) (l : Label) : Decidable (s.Tidy l) :=
  match l with
  | .giveUp i => inferInstanceAs (Decidable (∀ h ∈ s.handlers[i]?, _ = _ → s.Released _))
  | .receive i =>
    inferInstanceAs (Decidable (∀ h ∈ s.handlers[i]?, ∀ r ∈ s.responses.find? _, _ = _ → s.Released _))
  | .fetch i => inferInstanceAs (Decidable (∀ h ∈ s.handlers[i]?, _ = _ → _ = _ → s.Released _))
  | .complete i passes =>
    inferInstanceAs (Decidable (∀ h ∈ s.handlers[i]?, if s.completes h passes = true then
      ∀ arc ∈ h.phase.completing?, _ = _ ∨ _ ≠ _ else s.Released _))
  | .install i =>
    inferInstanceAs (Decidable (∀ h ∈ s.handlers[i]?, ∀ slot ∈ (_ : Option _), _ = _ → _ ≠ _))
  | .task i => inferInstanceAs (Decidable (∀ task ∈ s.tasks[i]?, s.TidyTask task))
  | .abort i => inferInstanceAs (Decidable (∀ task ∈ s.tasks[i]?, ∀ x ∈ task.notifies?, _ ≠ _))
  | .notice k _ => inferInstanceAs (Decidable (_ → ∀ x ∈ s.notices[k]?, _ ≠ _))
  | .login _ | .reconnect _ _ | .request _ | .save _ _ | .replay _ _ | .close _ | .logout _
  | .deliverKick _ | .prune _ | .start _ | .refuse _ | .answered | .timeout | .execute | .owner _ _
  | .undo _ _ | .dropResponse _ | .dropAnswer _ => .isTrue trivial

/-! ## The invariant -/

/-- Why Logic may record `x` while nothing runs in its execution domain. -/
def Moored (s : State) (x : Sess) : Prop :=
  s.Live x ∨ (∃ h ∈ s.handlers, h.sess = x ∧ h.phase.pending = true) ∨ x ∈ s.notices
    ∨ ∃ logout, .notify x logout ∈ s.tasks

def Outstanding (s : State) (x : Sess) : Prop :=
  x ∈ s.requests.map Prod.fst ∨ ∃ c ∈ s.busy, c.sess = x

structure Anchored (s : State) : Prop where
  awaited : ∀ x, s.Outstanding x → ∃ h ∈ s.handlers, h.sess = x ∧ h.phase = .awaiting
  moored : s.busy = none → ∀ x, s.session = some x → s.Moored x

theorem anchored_initial : Anchored State.initial where
  awaited := by
    rintro x (⟨⟨⟩⟩ | ⟨c, ⟨⟩, _⟩)
  moored := by
    rintro _ x ⟨⟩

/-- A replaced handler is the only one that is missing afterwards. -/
theorem mem_setPhase {i : Nat} {h g : Handler} (found : s.handlers[i]? = some h) (phase : Phase)
    (member : g ∈ s.handlers) : g = h ∨ g ∈ (s.setPhase i h phase).handlers := by
  obtain ⟨j, there⟩ := List.mem_iff_getElem?.mp member
  by_cases same : i = j
  · subst same
    rw [found] at there
    exact .inl (Option.some.inj there).symm
  · refine .inr (List.mem_of_getElem? (i := j) ?_)
    change (s.handlers.set i _)[j]? = some g
    rw [Pool.get_set_ne _ same]
    exact there

theorem mem_setPhase_self {i : Nat} {h : Handler} (found : s.handlers[i]? = some h) (phase : Phase) :
    { h with phase := phase } ∈ (s.setPhase i h phase).handlers :=
  List.mem_of_getElem? (Pool.get_set_self _ found)

theorem mem_setTask {i : Nat} {task other : Task} (found : s.tasks[i]? = some task) (next : Task)
    (member : other ∈ s.tasks) : other = task ∨ other ∈ (s.setTask i next).tasks := by
  obtain ⟨j, there⟩ := List.mem_iff_getElem?.mp member
  by_cases same : i = j
  · subst same
    rw [found] at there
    exact .inl (Option.some.inj there).symm
  · refine .inr (List.mem_of_getElem? (i := j) ?_)
    change (s.tasks.set i _)[j]? = some other
    rw [Pool.get_set_ne _ same]
    exact there

theorem mem_setTask_self {i : Nat} {task : Task} (found : s.tasks[i]? = some task) (next : Task) :
    next ∈ (s.setTask i next).tasks :=
  List.mem_of_getElem? (Pool.get_set_self _ found)

/-- Nothing but the phase of one handler changes. -/
theorem Anchored.phase (inv : Anchored s) {i : Nat} {h : Handler} (found : s.handlers[i]? = some h)
    {phase : Phase} (awaited : h.phase = .awaiting → phase = .awaiting ∨ ¬ s.Outstanding h.sess)
    (pending : h.phase.pending = true → phase.pending = true ∨ s.session ≠ some h.sess) :
    Anchored (s.setPhase i h phase) where
  awaited := by
    intro x outstanding
    obtain ⟨g, isHandler, rfl, awaiting⟩ := inv.awaited x outstanding
    rcases mem_setPhase found phase isHandler with rfl | still
    · rcases awaited awaiting with same | done
      · exact ⟨_, mem_setPhase_self found phase, rfl, same⟩
      · exact absurd outstanding done
    · exact ⟨g, still, rfl, awaiting⟩
  moored := by
    intro idle x recorded
    rcases inv.moored idle x recorded with live | ⟨g, isHandler, rfl, waits⟩ | noticed | notified
    · exact .inl live
    · rcases mem_setPhase found phase isHandler with rfl | still
      · rcases pending waits with same | gone
        · exact .inr (.inl ⟨_, mem_setPhase_self found phase, rfl, same⟩)
        · exact absurd recorded gone
      · exact .inr (.inl ⟨g, still, rfl, waits⟩)
    · exact .inr (.inr (.inl noticed))
    · exact .inr (.inr (.inr notified))

theorem not_outstanding_of_released {x : Sess} (released : s.Released x) : ¬ s.Outstanding x := by
  rintro (asked | ⟨c, isBusy, same⟩)
  · exact released.2.1 asked
  · exact released.2.2 c isBusy same

/-- A handler may end when Logic does not know its session. -/
theorem Anchored.finish (inv : Anchored s) {i : Nat} {h : Handler} (found : s.handlers[i]? = some h)
    (released : h.phase.pending = true → s.Released h.sess) : Anchored (s.setPhase i h .done) := by
  apply inv.phase found
  · intro awaiting
    exact .inr (not_outstanding_of_released (released (by rw [awaiting]; rfl)))
  · intro pending
    exact .inr (released pending).1

/-- Steps that touch neither the handlers nor what Logic holds. -/
theorem Anchored.frame (inv : Anchored s) (handlers : t.handlers = s.handlers)
    (requests : t.requests = s.requests) (busy : t.busy = s.busy) (session : t.session = s.session)
    (moored : s.busy = none → ∀ x, s.session = some x → s.Moored x → t.Moored x) : Anchored t where
  awaited := by
    intro x outstanding
    rw [handlers]
    refine inv.awaited x ?_
    rw [Outstanding, requests, busy] at outstanding
    exact outstanding
  moored := by
    intro idle x recorded
    rw [busy] at idle
    rw [session] at recorded
    exact moored idle x recorded (inv.moored idle x recorded)

/-! ## The steps of a handler -/

theorem Anchored.connect (inv : Anchored s) {x : Sess} {previous : Option SessionId}
    (taken : s.connect x previous = some t) : Anchored t := by
  simp only [State.connect, Option.ite_none_left_eq_some, Option.some.injEq] at taken
  obtain ⟨_, rfl⟩ := taken
  refine ⟨?_, ?_⟩
  · intro y outstanding
    obtain ⟨g, isHandler, same, awaiting⟩ := inv.awaited y outstanding
    exact ⟨g, List.mem_append_left _ isHandler, same, awaiting⟩
  · intro idle y recorded
    rcases inv.moored idle y recorded with live | ⟨g, isHandler, pending⟩ | rest
    · exact .inl live
    · exact .inr (.inl ⟨g, List.mem_append_left _ isHandler, pending⟩)
    · exact .inr (.inr rest)

theorem Anchored.fetch (inv : Anchored s) {i : Nat} {h : Handler} (found : s.handlers[i]? = some h)
    (tidy : h.phase = .granted → s.table h.sess.gate = none → s.Released h.sess)
    (taken : s.fetch i h = some t) : Anchored t := by
  unfold State.fetch at taken
  split at taken
  case h_1 p verifying _ =>
    obtain ⟨arc, _, rfl⟩ := Option.map_eq_some_iff.mp taken
    apply inv.phase found
    · rw [verifying]
      rintro ⟨⟩
    · rw [verifying]
      rintro ⟨⟩
  case h_2 p granted _ =>
    split at taken
    · obtain rfl := Option.some.inj taken
      apply inv.phase found
      · rw [granted]
        rintro ⟨⟩
      · intro _
        exact .inl rfl
    case h_2 missing =>
      obtain rfl := Option.some.inj taken
      exact inv.finish found fun _ => tidy granted missing
  case h_3 => cases taken

theorem Anchored.request (inv : Anchored s) {i : Nat} {h : Handler}
    (found : s.handlers[i]? = some h) (taken : s.request i h = some t) : Anchored t := by
  have ask : ∀ reconnect, h.phase.pending = false →
      Anchored { s.setPhase i h .awaiting with requests := s.requests ++ [(h.sess, reconnect)] } := by
    intro reconnect early
    have moved : Anchored (s.setPhase i h .awaiting) := by
      apply inv.phase found
      · intro awaiting
        rw [awaiting] at early
        cases early
      · intro _
        exact .inl rfl
    refine { moved with awaited := ?_ }
    rintro x (asked | busy)
    · rw [List.map_append, List.mem_append] at asked
      rcases asked with before | new
      · exact moved.awaited x (.inl before)
      · obtain rfl := List.mem_singleton.mp new
        exact ⟨_, mem_setPhase_self found .awaiting, rfl, rfl⟩
    · exact moved.awaited x (.inr busy)
  unfold State.request at taken
  split at taken
  case h_1 verifying _ =>
    obtain rfl := Option.some.inj taken
    exact ask false (by rw [verifying]; rfl)
  case h_2 arc p authorizing _ =>
    simp only [Option.ite_none_right_eq_some, Option.some.injEq] at taken
    obtain ⟨_, rfl⟩ := taken
    exact ask true (by rw [authorizing]; rfl)
  case h_3 => cases taken

theorem Anchored.receive (basic : Basic s) (inv : Anchored s) {i : Nat} {h : Handler}
    (found : s.handlers[i]? = some h)
    (tidy : ∀ response ∈ s.responses.find? (·.1 = h.sess), response.2 = false → s.Released h.sess)
    (taken : s.receive i h = some t) : Anchored t := by
  simp only [State.receive, Option.ite_none_right_eq_some, Option.map_eq_some_iff] at taken
  obtain ⟨_, ⟨x, ok⟩, arrived, rfl⟩ := taken
  have moved : Anchored (s.setPhase i h (if ok then .granted else .done)) := by
    cases ok with
    | false => exact inv.finish found fun _ => tidy _ arrived rfl
    | true =>
      have same : x = h.sess := by simpa using List.find?_some arrived
      have isResponse := List.mem_of_find?_eq_some arrived
      rw [same] at isResponse
      -- an executed login is not outstanding any more
      have settled := basic.not_outstanding (basic.responded h.sess isResponse)
      apply inv.phase found
      · rintro -
        refine .inr ?_
        rintro (asked | ⟨c, isBusy, same⟩)
        · exact settled.1 asked
        · exact settled.2 c isBusy same
      · intro _
        exact .inl rfl
  exact { moved with }

theorem live_iff {x : Sess} :
    s.Live x ↔ ∃ arc, s.table x.gate = some arc ∧ s.arcs[arc]? = some ⟨x, true⟩ :=
  Option.bind_eq_some_iff

/-- What a change at one Gate's table does to the live sessions. -/
theorem live_setTable {x : Sess} (live : s.Live x) (gate : GateId) (arc : Option Nat) :
    x.gate = gate ∨ (s.setTable gate arc).Live x := by
  by_cases here : x.gate = gate
  · exact .inl here
  · refine .inr ?_
    change (Function.update s.table gate arc x.gate).bind _ = _
    rw [Function.update_of_ne here]
    exact live

/-- What a change of one session does to the live sessions. -/
theorem live_setArc {x : Sess} (live : s.Live x) (arc : Nat) (slot : Slot) :
    (s.table x.gate = some arc ∧ s.arcs[arc]? = some ⟨x, true⟩) ∨ (s.setArc arc slot).Live x := by
  obtain ⟨held, mapped, behind⟩ := live_iff.mp live
  by_cases here : arc = held
  · subst here
    exact .inl ⟨mapped, behind⟩
  · refine .inr (live_iff.mpr ⟨held, mapped, ?_⟩)
    change (s.arcs.set arc slot)[held]? = _
    rw [Pool.get_set_ne _ here]
    exact behind

theorem Anchored.install (inv : Anchored s) {i : Nat} {h : Handler}
    (found : s.handlers[i]? = some h)
    (tidy : ∀ slot ∈ (s.table h.sess.gate).bind (s.arcs[·]?), slot.active = true →
      s.session ≠ some slot.sess)
    (taken : s.install i h = some t) : Anchored t := by
  simp only [State.install, Option.ite_none_right_eq_some, Option.some.injEq] at taken
  obtain ⟨⟨granted, _⟩, rfl⟩ := taken
  refine ⟨?_, ?_⟩
  · intro x outstanding
    obtain ⟨g, isHandler, same, awaiting⟩ := inv.awaited x outstanding
    rcases mem_setPhase found .installed isHandler with rfl | still
    · rw [granted] at awaiting
      cases awaiting
    · exact ⟨g, still, same, awaiting⟩
  · intro idle x recorded
    by_cases own : x = h.sess
    · subst own
      refine .inl (live_iff.mpr ⟨s.arcs.length, Function.update_self .., ?_⟩)
      exact Pool.get_append_self _ _
    · rcases inv.moored idle x recorded with live | ⟨g, isHandler, same, pending⟩ | rest
      · refine .inl ?_
        rcases live_setTable live h.sess.gate (some s.arcs.length) with here | there
        · -- the entry that is replaced is not Logic's session
          rw [Live, here] at live
          exact absurd recorded (tidy _ live rfl)
        · obtain ⟨arc, mapped, behind⟩ := live_iff.mp there
          exact live_iff.mpr ⟨arc, mapped, Pool.get_append_of_some _ behind⟩
      · rcases mem_setPhase found .installed isHandler with rfl | still
        · exact absurd same.symm own
        · exact .inr (.inl ⟨g, still, same, pending⟩)
      · exact .inr (.inr rest)

theorem Anchored.complete (basic : Basic s) (inv : Anchored s) {i : Nat} {h : Handler}
    (found : s.handlers[i]? = some h) {passes : Bool}
    (tidy : if s.completes h passes then
        ∀ arc ∈ h.phase.completing?, s.table h.sess.gate = some arc ∨ s.session ≠ some h.sess
      else s.Released h.sess)
    (taken : s.complete i h passes = some t) : Anchored t := by
  unfold State.complete at taken
  split at taken
  case h_2 => cases taken
  case h_1 arc p completing previous =>
    obtain ⟨slot, behind, rfl⟩ := Option.map_eq_some_iff.mp taken
    have decides : s.completes h passes = decide (slot.sess = ⟨h.sess.gate, p⟩ ∧ passes = true) := by
      simp only [completes, completing, previous, behind, Option.any_some]
      cases passes <;> simp
    by_cases succeeds : slot.sess = ⟨h.sess.gate, p⟩ ∧ passes = true
    · rw [if_pos succeeds]
      rw [decides, decide_eq_true succeeds, if_pos rfl] at tidy
      have gone := (basic.previous h (List.mem_of_getElem? found) p previous
        (by rw [completing]; rfl)).2
        (basic.answered h (List.mem_of_getElem? found) (by rw [completing]; rfl))
      refine ⟨?_, ?_⟩
      · intro x outstanding
        obtain ⟨g, isHandler, same, awaiting⟩ := inv.awaited x outstanding
        rcases mem_setPhase found .installed isHandler with rfl | still
        · rw [completing] at awaiting
          cases awaiting
        · exact ⟨g, still, same, awaiting⟩
      · intro idle x recorded
        by_cases own : x = h.sess
        · subst own
          rcases tidy arc (by rw [completing]; rfl) with mapped | elsewhere
          · exact .inl (live_iff.mpr ⟨arc, mapped, Pool.get_set_self _ behind⟩)
          · exact absurd recorded elsewhere
        · rcases inv.moored idle x recorded with live | ⟨g, isHandler, same, pending⟩ | rest
          · rcases live_setArc live arc ⟨h.sess, true⟩ with ⟨_, here⟩ | there
            · -- Logic has moved on from the session that is resumed
              rw [behind] at here
              rw [Option.some.inj here] at succeeds
              rw [← succeeds.1] at gone
              exact absurd recorded gone
            · exact .inl there
          · rcases mem_setPhase found .installed isHandler with rfl | still
            · exact absurd same.symm own
            · exact .inr (.inl ⟨g, still, same, pending⟩)
          · exact .inr (.inr rest)
    · rw [if_neg succeeds]
      rw [decides, decide_eq_false succeeds, if_neg (by decide)] at tidy
      exact inv.finish found fun _ => tidy

theorem Anchored.spawn (inv : Anchored s) (task : Task) : Anchored (s.spawn task) := by
  refine inv.frame rfl rfl rfl rfl ?_
  rintro _ x _ (live | pending | noticed | ⟨logout, notified⟩)
  · exact .inl live
  · exact .inr (.inl pending)
  · exact .inr (.inr (.inl noticed))
  · exact .inr (.inr (.inr ⟨logout, List.mem_append_left _ notified⟩))

/-- A handler whose session is in the table may end. -/
theorem Anchored.leave (inv : Anchored s) {i : Nat} {h : Handler} (found : s.handlers[i]? = some h)
    (installed : h.phase.pending = false) (phase : Phase) : Anchored (s.setPhase i h phase) := by
  apply inv.phase found
  · intro awaiting
    rw [awaiting] at installed
    cases installed
  · intro pending
    rw [pending] at installed
    cases installed

theorem Anchored.save (inv : Anchored s) {i : Nat} {h : Handler} (found : s.handlers[i]? = some h)
    {ok : Bool} (taken : s.save i h ok = some t) : Anchored t := by
  unfold State.save at taken
  split at taken
  case isFalse => cases taken
  case isTrue installed =>
    have settled : h.phase.pending = false := by rw [installed]; rfl
    cases ok with
    | false =>
      obtain rfl := Option.some.inj taken
      exact (inv.leave found settled .done).spawn _
    | true =>
      obtain rfl := Option.some.inj taken
      exact { inv.leave found settled _ with }

theorem Anchored.replay (inv : Anchored s) {i : Nat} {h : Handler} (found : s.handlers[i]? = some h)
    {ok : Bool} (taken : s.replay i h ok = some t) : Anchored t := by
  simp only [State.replay, Option.ite_none_right_eq_some, Option.some.injEq] at taken
  obtain ⟨replaying, rfl⟩ := taken
  have left := inv.leave found (by rw [replaying]; rfl) .done
  split
  · exact left
  · exact left.spawn _

/-! ## The steps of the other work -/

theorem Moored.setTask {x : Sess} (holds : s.Moored x) {i : Nat} {task : Task}
    (found : s.tasks[i]? = some task) (next : Task) :
    (∃ logout, task = .notify x logout) ∨ (s.setTask i next).Moored x := by
  rcases holds with live | pending | noticed | ⟨logout, notified⟩
  · exact .inr (.inl live)
  · exact .inr (.inr (.inl pending))
  · exact .inr (.inr (.inr (.inl noticed)))
  · rcases mem_setTask found next notified with same | still
    · exact .inl ⟨logout, same.symm⟩
    · exact .inr (.inr (.inr (.inr ⟨logout, still⟩)))

theorem Moored.setArc {x : Sess} (holds : s.Moored x) (arc : Nat) (slot : Slot) :
    (s.table x.gate = some arc ∧ s.arcs[arc]? = some ⟨x, true⟩) ∨ (s.setArc arc slot).Moored x := by
  rcases holds with live | rest
  · exact (live_setArc live arc slot).imp_right .inl
  · exact .inr (.inr rest)

theorem Moored.setTable {x : Sess} (holds : s.Moored x) (gate : GateId) (arc : Option Nat) :
    (x.gate = gate ∧ s.Live x) ∨ (s.setTable gate arc).Moored x := by
  rcases holds with live | rest
  · exact (live_setTable live gate arc).imp (⟨·, live⟩) .inl
  · exact .inr (.inr rest)

/-- A task that is not about to notify Logic moves on. -/
theorem Anchored.setTask (inv : Anchored s) {i : Nat} {task : Task}
    (found : s.tasks[i]? = some task) (silent : ∀ x logout, task ≠ .notify x logout) (next : Task) :
    Anchored (s.setTask i next) := by
  refine inv.frame rfl rfl rfl rfl ?_
  intro _ x _ holds
  rcases holds.setTask found next with ⟨logout, same⟩ | moored
  · exact absurd same (silent x logout)
  · exact moored

theorem Anchored.missKick (inv : Anchored s) {i : Nat} {task : Task}
    (found : s.tasks[i]? = some task) (silent : ∀ x logout, task ≠ .notify x logout) (x : Sess)
    (remote : Bool) : Anchored (s.missKick i x remote) := by
  unfold State.missKick
  split
  · exact { inv.setTask found silent .done with }
  · exact inv.setTask found silent _

theorem Anchored.disconnectArc (inv : Anchored s) {i : Nat} {x : Sess} {arc : Nat}
    (found : s.tasks[i]? = some (.disconnectArc x arc)) (behind : s.arcs[arc]? = some ⟨x, true⟩) :
    Anchored ((s.setArc arc ⟨x, false⟩).setTask i (.notify x false)) := by
  refine inv.frame rfl rfl rfl rfl ?_
  intro _ y _ holds
  rcases holds.setArc arc ⟨x, false⟩ with ⟨_, here⟩ | moored
  · -- the session that is ended is the one Logic will be told about
    rw [behind] at here
    obtain rfl : x = y := congrArg Slot.sess (Option.some.inj here)
    exact .inr (.inr (.inr ⟨false, mem_setTask_self (s := s.setArc arc ⟨x, false⟩) found _⟩))
  · rcases moored.setTask (s := s.setArc arc ⟨x, false⟩) found (.notify x false) with ⟨_, ⟨⟩⟩ | still
    exact still

theorem Anchored.kickArc (basic : Basic s) (inv : Anchored s) {i : Nat} {x : Sess} {remote : Bool}
    {arc : Nat} (found : s.tasks[i]? = some (.kickArc x remote arc))
    (tidy : s.TidyTask (.kickArc x remote arc)) {slot : Slot} (behind : s.arcs[arc]? = some slot)
    (isFor : slot.sess = x) :
    Anchored ((s.setArc arc ⟨x, false⟩).setTask i (.kickRemove x remote arc)) := by
  refine inv.frame rfl rfl rfl rfl ?_
  intro idle y recorded holds
  rcases holds.setArc arc ⟨x, false⟩ with ⟨_, here⟩ | moored
  · have same : y = x := by
      rw [behind] at here
      rw [← isFor, Option.some.inj here]
    subst same
    cases remote with
    | true =>
      -- Logic asked for the kick and is still in the command that replaces the session
      have busy := (basic.kicked y (.inr (.inr ⟨arc, List.mem_of_getElem? found⟩))).2 recorded
      rw [idle] at busy
      cases busy
    | false => exact absurd recorded (tidy here)
  · rcases moored.setTask (s := s.setArc arc ⟨x, false⟩) found (.kickRemove x remote arc) with
      ⟨_, ⟨⟩⟩ | still
    exact still

theorem Anchored.kickRemove (inv : Anchored s) {i : Nat} {x : Sess} {remote : Bool} {arc : Nat}
    (found : s.tasks[i]? = some (.kickRemove x remote arc))
    (tidy : s.TidyTask (.kickRemove x remote arc)) (mapped : s.table x.gate = some arc) :
    Anchored ((s.setTable x.gate none).setTask i (.clear x remote)) := by
  refine inv.frame rfl rfl rfl rfl ?_
  intro _ y _ holds
  rcases holds.setTable x.gate none with ⟨here, live⟩ | moored
  · obtain ⟨held, there, behind⟩ := live_iff.mp live
    rw [here, mapped] at there
    obtain rfl := Option.some.inj there
    have inactive := tidy mapped _ behind
    cases inactive
  · rcases moored.setTask (s := s.setTable x.gate none) found (.clear x remote) with ⟨_, ⟨⟩⟩ | still
    exact still

theorem Anchored.invalidate (inv : Anchored s) {i : Nat} {x : Sess}
    (found : s.tasks[i]? = some (.invalidate x))
    (isFor : ((s.table x.gate).bind (s.arcs[·]?)).any (·.sess = x) = true) :
    Anchored ((s.setTable x.gate none).setTask i (.notify x true)) := by
  refine inv.frame rfl rfl rfl rfl ?_
  intro _ y _ holds
  rcases holds.setTable x.gate none with ⟨here, live⟩ | moored
  · have same : y = x := by
      rw [Live, here] at live
      rw [live] at isFor
      simpa using isFor
    subst same
    exact .inr (.inr (.inr ⟨true, mem_setTask_self (s := s.setTable y.gate none) found _⟩))
  · rcases moored.setTask (s := s.setTable x.gate none) found (.notify x true) with ⟨_, ⟨⟩⟩ | still
    exact still

theorem Anchored.notify (inv : Anchored s) {i : Nat} {x : Sess} {logout : Bool}
    (found : s.tasks[i]? = some (.notify x logout)) :
    Anchored { s.setTask i (.clear x false) with notices := s.notices ++ [x] } := by
  refine inv.frame rfl rfl rfl rfl ?_
  intro _ y _ holds
  rcases holds.setTask found (.clear x false) with ⟨_, same⟩ | moored
  · obtain ⟨rfl, _⟩ := Task.notify.inj same
    exact .inr (.inr (.inl (List.mem_append_right _ (List.mem_singleton.mpr rfl))))
  · rcases moored with live | pending | noticed | notified
    · exact .inl live
    · exact .inr (.inl pending)
    · exact .inr (.inr (.inl (List.mem_append_left _ noticed)))
    · exact .inr (.inr (.inr notified))

theorem Anchored.clearRedis (inv : Anchored s) (x : Sess) : Anchored (s.clearRedis x) := by
  unfold State.clearRedis
  split
  · exact { inv with }
  · exact inv

theorem Anchored.task (basic : Basic s) (inv : Anchored s) {i : Nat} {task : Task}
    (found : s.tasks[i]? = some task) (tidy : s.TidyTask task)
    (taken : s.advance i task = some t) : Anchored t := by
  cases advances_of_advance taken with
  | moved silent _ _ => exact inv.setTask found silent _
  | missed kicks =>
    apply inv.missKick found
    rcases kicks with rfl | ⟨arc, rfl⟩ <;> simp
  | unbound behind => exact inv.disconnectArc found behind
  | kicked behind isFor => exact inv.kickArc basic found tidy behind isFor
  | removed mapped => exact inv.kickRemove found tidy mapped
  | invalidated isFor => exact inv.invalidate found isFor
  | notified => exact inv.notify found
  | @cleared x remote =>
    have cleared : Anchored ((s.clearRedis x).setTask i .done) :=
      (inv.clearRedis x).setTask (by rw [(s.clearRedis_rest x).2.1]; exact found) (by simp) _
    split
    · exact { cleared with }
    · exact cleared

theorem Anchored.abort (inv : Anchored s) {i : Nat} {task : Task}
    (found : s.tasks[i]? = some task) (tidy : ∀ x ∈ task.notifies?, s.session ≠ some x)
    (taken : s.abort i task = some t) : Anchored t := by
  cases task with
  | logout x | logoutArc x arc =>
    obtain rfl := Option.some.inj taken
    exact inv.setTask found (by simp) _
  | notify x logout =>
    cases logout with
    | false => cases taken
    | true =>
      obtain rfl := Option.some.inj taken
      refine inv.frame rfl rfl rfl rfl ?_
      intro _ y recorded holds
      rcases holds.setTask found .done with ⟨_, same⟩ | moored
      · obtain ⟨rfl, _⟩ := Task.notify.inj same
        exact absurd recorded (tidy x rfl)
      · exact moored
  | _ => cases taken

/-! ## The steps of Logic -/

theorem Anchored.start (inv : Anchored s) {k : Nat} {x : Sess} {reconnect : Bool}
    (found : s.requests[k]? = some (x, reconnect)) (taken : s.start k x reconnect = some t) :
    Anchored t := by
  unfold State.start at taken
  split at taken
  case h_1 => cases taken
  case h_2 idle =>
    obtain rfl := Option.some.inj taken
    refine ⟨?_, ?_⟩
    · rintro y (asked | ⟨c, ⟨⟩, rfl⟩)
      · obtain ⟨request, isRequest, rfl⟩ := List.mem_map.mp asked
        exact inv.awaited _ (.inl (List.mem_map_of_mem (List.mem_of_mem_eraseIdx isRequest)))
      · exact inv.awaited x (.inl (List.mem_map.mpr ⟨_, List.mem_of_getElem? found, rfl⟩))
    · rintro ⟨⟩

theorem Anchored.execute (inv : Anchored s) {c : Command} (busy : s.busy = some c)
    (taken : s.execute c = some t) : Anchored t := by
  simp only [State.execute, Option.ite_none_left_eq_some, Option.some.injEq] at taken
  obtain ⟨_, rfl⟩ := taken
  refine ⟨?_, ?_⟩
  · rintro x (asked | ⟨d, ⟨⟩, _⟩)
    exact inv.awaited x (.inl asked)
  · rintro _ x ⟨⟩
    -- the Gate is still waiting for the answer
    obtain ⟨h, isHandler, same, awaiting⟩ := inv.awaited c.sess (.inr ⟨c, busy, rfl⟩)
    exact .inr (.inl ⟨h, isHandler, same, by rw [awaiting]; rfl⟩)

/-- Logic forgets a session, or the session was not the recorded one. -/
theorem Anchored.forget (inv : Anchored s) (x : Sess) : Anchored (s.forget x) := by
  unfold State.forget
  split
  · exact ⟨inv.awaited, by rintro _ y ⟨⟩⟩
  · exact inv

theorem Anchored.dropNotice (inv : Anchored s) {k : Nat} {x : Sess}
    (found : s.notices[k]? = some x) (other : s.session ≠ some x) :
    Anchored { s with notices := s.notices.eraseIdx k } := by
  refine inv.frame rfl rfl rfl rfl ?_
  rintro _ y recorded (live | pending | noticed | notified)
  · exact .inl live
  · exact .inr (.inl pending)
  · obtain ⟨j, there⟩ := List.mem_iff_getElem?.mp noticed
    refine .inr (.inr (.inl ?_))
    refine (List.mem_eraseIdx_iff_getElem?).mpr ⟨j, ?_, there⟩
    rintro rfl
    rw [found] at there
    rw [recorded, Option.some.inj there] at other
    exact other rfl
  · exact .inr (.inr (.inr notified))

/-- An inactive entry does not anchor a session, so the table may lose it. -/
theorem Anchored.prune (inv : Anchored s) {gate : GateId} {arc : Nat} {slot : Slot}
    (mapped : s.table gate = some arc) (behind : s.arcs[arc]? = some slot)
    (inactive : slot.active = false) : Anchored (s.setTable gate none) := by
  refine inv.frame rfl rfl rfl rfl ?_
  intro _ x _ holds
  rcases holds.setTable gate none with ⟨rfl, live⟩ | moored
  · obtain ⟨held, there, active⟩ := live_iff.mp live
    rw [mapped] at there
    obtain rfl := Option.some.inj there
    rw [behind] at active
    rw [Option.some.inj active] at inactive
    cases inactive
  · exact moored

theorem Anchored.refuse (inv : Anchored s) (k : Nat) (responses : List (Sess × Bool)) :
    Anchored { s with requests := s.requests.eraseIdx k, responses := responses } := by
  refine { inv with awaited := ?_ }
  rintro y (asked | busy)
  · obtain ⟨request, isRequest, rfl⟩ := List.mem_map.mp asked
    exact inv.awaited _ (.inl (List.mem_map_of_mem (List.mem_of_mem_eraseIdx isRequest)))
  · exact inv.awaited y (.inr busy)

/-- The command stops waiting for the kick. -/
theorem Anchored.proceed (inv : Anchored s) {c : Command} (busy : s.busy = some c)
    (answers : List Sess) :
    Anchored { s with busy := some { c with waits := false }, answers := answers } := by
  refine ⟨?_, by rintro ⟨⟩⟩
  rintro x (asked | ⟨d, ⟨⟩, same⟩)
  · exact inv.awaited x (.inl asked)
  · exact inv.awaited x (.inr ⟨c, busy, same⟩)

/-- A notice that arrives is either for the recorded session or changes nothing. -/
theorem Anchored.notice (inv : Anchored s) {k : Nat} {x : Sess} (found : s.notices[k]? = some x) :
    Anchored (State.forget { s with notices := s.notices.eraseIdx k } x) := by
  unfold State.forget
  split
  · exact ⟨inv.awaited, by rintro _ y ⟨⟩⟩
  case isFalse other => exact inv.dropNotice found other

theorem anchored_step {l : Label} (basic : Basic s) (inv : Anchored s) (tidy : s.Tidy l)
    (taken : s.step l = some t) : Anchored t := by
  cases stepped_of_step taken with
  | login taken => exact inv.connect taken
  | reconnect taken => exact inv.connect taken
  | @giveUp i h found => exact inv.finish found (tidy h found)
  | @fetch i h _ found taken => exact inv.fetch found (tidy h found) taken
  | request found taken => exact inv.request found taken
  | @receive i h _ found taken => exact inv.receive basic found (tidy h found) taken
  | @install i h _ found taken => exact inv.install found (tidy h found) taken
  | @complete i passes h _ found taken => exact inv.complete basic found (tidy h found) taken
  | save found taken => exact inv.save found taken
  | replay found taken => exact inv.replay found taken
  | close => exact inv.spawn _
  | logout => exact inv.spawn _
  | @deliverKick k x found =>
    have removed : Anchored { s with kicks := s.kicks.eraseIdx k } := { inv with }
    exact removed.spawn _
  | @task i task _ found taken => exact inv.task basic found (tidy task found) taken
  | @abort i task _ found taken => exact inv.abort found (tidy task found) taken
  | prune mapped behind inactive => exact inv.prune mapped behind inactive
  | start found taken => exact inv.start found taken
  | refuse => exact inv.refuse _ _
  | answered busy => exact inv.proceed busy _
  | timeout busy => exact inv.proceed busy s.answers
  | execute busy taken => exact inv.execute busy taken
  | owned => exact { inv with }
  | unowned => exact { inv with }
  | @undo k x =>
    have answered : Anchored { s with
        undos := s.undos.eraseIdx k, responses := s.responses ++ [(x, false)] } := { inv with }
    exact answered.forget x
  | undoRefused => exact { inv with }
  | notice found => exact inv.notice found
  | @noticeLost k x found => exact inv.dropNotice found (tidy rfl x found)
  | dropResponse => exact { inv with }
  | dropAnswer => exact { inv with }

theorem anchored_reach (reached : system.Reach Tidy s) : Anchored s := by
  refine reached.inv_with (fun s reached => basic_reach reached) ?_ ?_
  · rintro _ rfl
    exact anchored_initial
  · intro s l t basic inv tidy taken
    exact anchored_step basic inv tidy taken

/-- In a run that avoids the paths listed in `Tidy`, Logic keeps no session that
    its Gate does not hold. -/
theorem tidy_runs_leave_no_orphan (reached : system.Reach Tidy s) (quiet : s.Quiet) : s.NoOrphan := by
  intro x recorded
  rcases (anchored_reach reached).moored quiet.busy x recorded with
    live | ⟨h, isHandler, _, pending⟩ | noticed | ⟨logout, notified⟩
  · exact live
  · rw [quiet.handlers h isHandler] at pending
    cases pending
  · rw [quiet.notices] at noticed
    cases noticed
  · have done := quiet.tasks _ notified
    cases done

/-- The Gate's RPC times out after Logic has executed the login. -/
def timedOutLogin : List Label :=
  [.login ⟨1, 10⟩, .request 0, .start 0, .execute, .owner 0 true, .giveUp 0, .dropResponse 0]

theorem timed_out_login_is_orphaned :
    ¬ ∀ s : State, system.Reach System.Any s → s.Quiet → s.NoOrphan := by
  intro noOrphan
  have orphan : ∃ s, System.follow System.Any step .initial timedOutLogin = some s
      ∧ s.Quiet ∧ ¬ s.NoOrphan := by
    decide +kernel
  obtain ⟨s, followed, quiet, orphaned⟩ := orphan
  exact orphaned (noOrphan s (System.reach_of_follow rfl followed) quiet)

/-- A login, a second one at another Gate that replaces it, and a reconnect. -/
def tidyEvening : List Label :=
  [.login ⟨1, 10⟩, .request 0, .start 0, .execute, .owner 0 true, .receive 0, .install 0,
    .save 0 true, .login ⟨2, 20⟩, .request 1, .start 0, .deliverKick 0, .task 0, .task 0, .task 0,
    .task 0, .answered, .execute, .owner 0 true, .receive 1, .install 1, .save 1 true,
    .reconnect ⟨2, 21⟩ 20, .fetch 2, .request 2, .start 0, .execute, .owner 0 true, .receive 2,
    .fetch 2, .complete 2 true, .save 2 true, .replay 2 true]

theorem tidyEvening_no_orphan :
    ∃ s : State, s.session = some ⟨2, 21⟩ ∧ s.Quiet ∧ s.NoOrphan := by
  have run : ∃ s, System.follow Tidy step .initial tidyEvening = some s
      ∧ s.session = some ⟨2, 21⟩ ∧ s.Quiet := by
    decide +kernel
  obtain ⟨s, followed, recorded, quiet⟩ := run
  exact ⟨s, recorded, quiet,
    tidy_runs_leave_no_orphan (System.reach_of_follow rfl followed) quiet⟩

end State

end Xkk.Cluster
