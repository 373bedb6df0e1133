import Xkk.Cluster.Orphans

/-! # One active session

Logic switches ownership to a new session and kicks the old one by its id.  When
the kick arrives before the old session is installed it finds nothing, and the
old session is installed afterwards.

`InTurn` asks for two things: a kick reaches the table of its Gate only after
the kicked session was installed (or its handler ended), and a session is not
written to Redis after a later one.  In such runs the three copies of the
ownership agree whenever nothing is under way.
-/

namespace Xkk.Cluster

open Xkk.Lib Xkk.Gate

/-- The session that a `KickSessionReq` at a Gate is after. -/
def Task.chases? : Task → Option Sess
  | .kick x true | .kickArc x true _ | .kickRemove x true _ | .clear x true => some x
  | _ => none

/-- The kick is about to look the session up. -/
def Task.arrives? : Task → Option Sess
  | .kick x true => some x
  | _ => none

namespace State

variable {s t : State}

/-- At most one session is active, and it is the one that Logic and Redis name. -/
def Agreed (s : State) : Prop :=
  (∀ x y, s.Live x → s.Live y → x = y)
    ∧ ∀ x, s.Live x → s.session = some x ∧ s.redis = some x

/-- Logins and kicks only, without losses: a handler is aborted only after its
    connection was closed. -/
def LoginOnly (s : State) : Label → Prop
  | .login _ | .request _ | .receive _ | .install _ | .deliverKick _ | .task _ | .start _
  | .refuse _ | .answered | .execute | .dropResponse _ => True
  | .giveUp i => ∀ h ∈ s.handlers[i]?, h.phase = .installed → ¬ s.Live h.sess
  | .save _ ok | .owner _ ok => ok = true
  | _ => False

/-- No handler of the session is still on its way to the table. -/
def Settled (s : State) (x : Sess) : Prop := ∀ h ∈ s.handlers, h.sess = x → h.phase.early = false

def InTurn (s : State) : Label → Prop
  | .task i => ∀ task ∈ s.tasks[i]?, ∀ x ∈ task.arrives?, s.Settled x
  | .save i _ => ∀ h ∈ s.handlers[i]?, ∀ y ∈ s.saved,
      ¬ s.executed.idxOf h.sess < s.executed.idxOf y
  | _ => True

instance (s : State) (l : Label) : Decidable (s.LoginOnly l) :=
  match l with
  | .giveUp i => inferInstanceAs (Decidable (∀ h ∈ s.handlers[i]?, _ = _ → ¬ s.Live _))
  | .save _ _ | .owner _ _ => inferInstanceAs (Decidable (_ = _))
  | .login _ | .request _ | .receive _ | .install _ | .deliverKick _ | .task _ | .start _
  | .refuse _ | .answered | .execute | .dropResponse _ => .isTrue trivial
  | .reconnect _ _ | .fetch _ | .complete _ _ | .replay _ _ | .close _ | .logout _ | .abort _
  | .prune _ | .timeout | .undo _ _ | .notice _ _ | .dropAnswer _ => .isFalse id

instance (s : State) (x : Sess) : Decidable (s.Settled x) :=
  inferInstanceAs (Decidable (∀ h ∈ s.handlers, _ = _ → _ = _))

instance (s : State) (l : Label) : Decidable (s.InTurn l) :=
  match l with
  | .task i => inferInstanceAs (Decidable (∀ task ∈ s.tasks[i]?, ∀ x ∈ task.arrives?, s.Settled x))
  | .save i _ => inferInstanceAs (Decidable (∀ h ∈ s.handlers[i]?, ∀ y ∈ s.saved, ¬ _ < _))
  | .login _ | .request _ | .receive _ | .install _ | .deliverKick _ | .start _ | .refuse _
  | .answered | .execute | .dropResponse _ | .giveUp _ | .owner _ _ | .reconnect _ _ | .fetch _
  | .complete _ _ | .replay _ _ | .close _ | .logout _ | .abort _ | .prune _ | .timeout | .undo _ _
  | .notice _ _ | .dropAnswer _ => .isTrue trivial

/-! ## The invariant -/

/-- How many kicks are under way: sent, at work or answered. -/
def chasing (s : State) : Nat :=
  s.kicks.length + Pool.total (fun task => task.chases?.toList.length) s.tasks + s.answers.length

def Chased (s : State) (x : Sess) : Prop :=
  x ∈ s.kicks ∨ (∃ task ∈ s.tasks, task.chases? = some x) ∨ x ∈ s.answers

/-- The kick has made sure that the session is not in the table. -/
def Evicted (s : State) (x : Sess) : Prop :=
  (∃ arc, .kickRemove x true arc ∈ s.tasks) ∨ .clear x true ∈ s.tasks ∨ x ∈ s.answers

structure Single (s : State) : Prop where
  logins : ∀ h ∈ s.handlers, h.previous = none
  requests : ∀ r ∈ s.requests, r.2 = false
  tasks : ∀ task ∈ s.tasks, task = .done ∨ task.chases?.isSome = true
  last : s.session = s.executed.getLast?
  owner : ∀ x, s.Live x → s.session = some x
  -- whoever still has to be installed is the last one that was executed
  pending : ∀ h ∈ s.handlers, h.phase.early = true → h.sess ∈ s.executed → s.session = some h.sess
  -- Logic waits for its one kick, which is after the recorded session
  oneKick : s.chasing = if s.busy.any Command.waits then 1 else 0
  chased : ∀ x, s.Chased x → s.session = some x
  looked : ∀ x arc, .kickArc x true arc ∈ s.tasks →
    s.Settled x ∧ (s.Live x → s.table x.gate = some arc)
  evicted : ∀ x, s.Evicted x → s.Settled x ∧ ¬ s.Live x
  ready : ∀ c ∈ s.busy, c.waits = false → ∀ x ∈ c.old, x ≠ c.sess → s.Settled x ∧ ¬ s.Live x
  written : ∀ x, s.Live x →
    (∃ h ∈ s.handlers, h.sess = x ∧ h.phase = .installed) ∨ (s.redis = some x ∧ x ∈ s.saved)
  savedExecuted : ∀ x ∈ s.saved, x ∈ s.executed

theorem single_initial : Single State.initial where
  logins := by intro h member; cases member
  requests := by intro r member; cases member
  tasks := by intro task member; cases member
  last := rfl
  owner := by intro x live; cases live
  pending := by intro h member; cases member
  oneKick := rfl
  chased := by
    intro x chased
    obtain chased | ⟨task, member, _⟩ | chased := chased
    · cases chased
    · cases member
    · cases chased
  looked := by intro x arc member; cases member
  evicted := by
    intro x evicted
    obtain ⟨arc, member⟩ | member | member := evicted <;> cases member
  ready := by intro c busy; cases busy
  written := by intro x live; cases live
  savedExecuted := by intro x member; cases member

theorem not_chased_of_zero (none : s.chasing = 0) (x : Sess) : ¬ s.Chased x := by
  intro chased
  unfold chasing at none
  cases chased with
  | inl sent =>
    have := List.length_pos_of_mem sent
    omega
  | inr rest =>
    cases rest with
    | inl atWork =>
      obtain ⟨task, member, target⟩ := atWork
      obtain ⟨i, there⟩ := List.mem_iff_getElem?.mp member
      have weight := Pool.weight_le_total (fun task : Task => task.chases?.toList.length) there
      simp only [target, Option.toList_some, List.length_singleton] at weight
      omega
    | inr answered =>
      have := List.length_pos_of_mem answered
      omega

theorem Single.idle (inv : Single s) (free : s.busy.any Command.waits = false) (x : Sess) :
    ¬ s.Chased x := by
  apply not_chased_of_zero
  rw [inv.oneKick, free]
  rfl

theorem chased_of_evicted {x : Sess} (evicted : s.Evicted x) : s.Chased x := by
  cases evicted with
  | inl removing =>
    obtain ⟨arc, member⟩ := removing
    exact .inr (.inl ⟨_, member, rfl⟩)
  | inr rest =>
    cases rest with
    | inl clearing => exact .inr (.inl ⟨_, clearing, rfl⟩)
    | inr answered => exact .inr (.inr answered)

theorem used_of_recorded (basic : Basic s) {x : Sess} (recorded : s.session = some x) :
    x ∈ s.used :=
  basic.askedUsed x (executed_asked (basic.recorded x recorded))

theorem settled_setPhase {x : Sess} (settled : s.Settled x) {i : Nat} {h : Handler}
    (found : s.handlers[i]? = some h) {phase : Phase}
    (early : phase.early = true → h.phase.early = true) : (s.setPhase i h phase).Settled x := by
  intro g member same
  cases List.mem_or_eq_of_mem_set member with
  | inl before => exact settled g before same
  | inr new =>
    subst new
    have late := settled h (List.mem_of_getElem? found) same
    cases now : phase.early with
    | false => rfl
    | true =>
      rw [early now] at late
      cases late

/-- A handler moves on, and may write the Redis record. -/
theorem Single.move (inv : Single s) {i : Nat} {h : Handler} (found : s.handlers[i]? = some h)
    {phase : Phase} {redis : Option Sess} {saved : List Sess}
    (early : phase.early = true → h.phase.early = true)
    (written : ∀ x, s.Live x →
      (∃ g ∈ (s.setPhase i h phase).handlers, g.sess = x ∧ g.phase = .installed)
        ∨ (redis = some x ∧ x ∈ saved))
    (savedExecuted : ∀ x ∈ saved, x ∈ s.executed) :
    Single { s.setPhase i h phase with redis := redis, saved := saved } := by
  have member := List.mem_of_getElem? found
  have settled : ∀ x, s.Settled x → (s.setPhase i h phase).Settled x := by
    intro x before
    exact settled_setPhase before found early
  refine { inv with
    logins := ?_, pending := ?_, looked := ?_, evicted := ?_, ready := ?_, written := written,
    savedExecuted := savedExecuted }
  · intro g isHandler
    cases List.mem_or_eq_of_mem_set isHandler with
    | inl before => exact inv.logins g before
    | inr new =>
      subst new
      exact inv.logins h member
  · intro g isHandler isEarly executed
    cases List.mem_or_eq_of_mem_set isHandler with
    | inl before => exact inv.pending g before isEarly executed
    | inr new =>
      subst new
      exact inv.pending h member (early isEarly) executed
  · intro x arc kicking
    obtain ⟨before, mapped⟩ := inv.looked x arc kicking
    exact ⟨settled x before, mapped⟩
  · intro x evicted
    obtain ⟨before, gone⟩ := inv.evicted x evicted
    exact ⟨settled x before, gone⟩
  · intro c isBusy waits x isOld other
    obtain ⟨before, gone⟩ := inv.ready c isBusy waits x isOld other
    exact ⟨settled x before, gone⟩

theorem Single.setPhase (inv : Single s) {i : Nat} {h : Handler} (found : s.handlers[i]? = some h)
    {phase : Phase} (early : phase.early = true → h.phase.early = true)
    (installed : h.phase = .installed → ¬ s.Live h.sess) : Single (s.setPhase i h phase) := by
  refine inv.move found early ?_ inv.savedExecuted
  intro x live
  cases inv.written x live with
  | inl writing =>
    obtain ⟨g, isHandler, same, there⟩ := writing
    cases mem_setPhase found phase isHandler with
    | inl own =>
      subst own
      subst same
      exact absurd live (installed there)
    | inr still => exact .inl ⟨g, still, same, there⟩
  | inr written => exact .inr written

/-! ## The steps of a handler -/

theorem Single.connect (basic : Basic s) (inv : Single s) {x : Sess}
    (taken : s.connect x none = some t) : Single t := by
  simp only [State.connect, Option.ite_none_left_eq_some, Option.some.injEq] at taken
  obtain ⟨fresh, rfl⟩ := taken
  -- the new handler is early, but nothing refers to its session yet
  have settled : ∀ y, s.session = some y → s.Settled y →
      ∀ h ∈ s.handlers ++ [⟨x, none, .verifying⟩], h.sess = y → h.phase.early = false := by
    intro y recorded before h member same
    cases List.mem_append.mp member with
    | inl old => exact before h old same
    | inr new =>
      obtain rfl := List.mem_singleton.mp new
      subst same
      exact absurd (used_of_recorded basic recorded) fresh
  refine { inv with logins := ?_, pending := ?_, looked := ?_, evicted := ?_, ready := ?_, written := ?_ }
  · intro h member
    cases List.mem_append.mp member with
    | inl old => exact inv.logins h old
    | inr new => rw [List.mem_singleton.mp new]
  · intro h member early executed
    cases List.mem_append.mp member with
    | inl old => exact inv.pending h old early executed
    | inr new =>
      obtain rfl := List.mem_singleton.mp new
      exact absurd (basic.askedUsed x (executed_asked executed)) fresh
  · intro y arc kicking
    obtain ⟨before, mapped⟩ := inv.looked y arc kicking
    exact ⟨settled y (inv.chased y (.inr (.inl ⟨_, kicking, rfl⟩))) before, mapped⟩
  · intro y evicted
    obtain ⟨before, gone⟩ := inv.evicted y evicted
    exact ⟨settled y (inv.chased y (chased_of_evicted evicted)) before, gone⟩
  · intro c isBusy waits y isOld other
    obtain ⟨before, gone⟩ := inv.ready c isBusy waits y isOld other
    have recorded : s.session = some y := (basic.command c isBusy).symm.trans isOld
    exact ⟨settled y recorded before, gone⟩
  · intro y live
    cases inv.written y live with
    | inl writing =>
      obtain ⟨h, member, writes⟩ := writing
      exact .inl ⟨h, List.mem_append_left _ member, writes⟩
    | inr written => exact .inr written

theorem Single.request (inv : Single s) {i : Nat} {h : Handler}
    (found : s.handlers[i]? = some h) (taken : s.request i h = some t) : Single t := by
  unfold State.request at taken
  split at taken
  case h_1 verifying _ =>
    obtain rfl := Option.some.inj taken
    have moved : Single (s.setPhase i h .awaiting) := by
      apply inv.setPhase found
      · intro _
        rw [verifying]
        rfl
      · intro installed
        rw [verifying] at installed
        cases installed
    refine { moved with requests := ?_ }
    intro r member
    cases List.mem_append.mp member with
    | inl old => exact inv.requests r old
    | inr new => rw [List.mem_singleton.mp new]
  case h_2 arc p _ previous =>
    rw [inv.logins h (List.mem_of_getElem? found)] at previous
    cases previous
  case h_3 => cases taken

theorem Single.receive (inv : Single s) {i : Nat} {h : Handler}
    (found : s.handlers[i]? = some h) (taken : s.receive i h = some t) : Single t := by
  simp only [State.receive, Option.ite_none_right_eq_some, Option.map_eq_some_iff] at taken
  obtain ⟨awaiting, response, _, rfl⟩ := taken
  have moved : Single (s.setPhase i h (if response.2 then .granted else .done)) := by
    apply inv.setPhase found
    · intro _
      rw [awaiting]
      rfl
    · intro installed
      rw [awaiting] at installed
      cases installed
  exact { moved with }

/-- After `install_login` the installed session is live; the others are where
    they were, except that its Gate has one entry only. -/
theorem live_install {i : Nat} {h : Handler} {y : Sess} (taken : s.install i h = some t)
    (live : t.Live y) : y = h.sess ∨ s.Live y := by
  simp only [State.install, Option.ite_none_right_eq_some, Option.some.injEq] at taken
  obtain ⟨_, rfl⟩ := taken
  obtain ⟨arc, mapped, behind⟩ := live_iff.mp live
  change Function.update s.table h.sess.gate (some s.arcs.length) y.gate = some arc at mapped
  change (s.arcs ++ [⟨h.sess, true⟩])[arc]? = some ⟨y, true⟩ at behind
  cases Pool.get_append_cases behind with
  | inl new =>
    obtain ⟨_, same⟩ := new
    exact .inl (Slot.mk.inj same).1
  | inr old =>
    obtain ⟨inside, there⟩ := old
    by_cases here : y.gate = h.sess.gate
    · rw [here, Function.update_self] at mapped
      have := Option.some.inj mapped
      omega
    · rw [Function.update_of_ne here] at mapped
      exact .inr (live_iff.mpr ⟨arc, mapped, there⟩)

theorem Single.install (basic : Basic s) (inv : Single s) {i : Nat} {h : Handler}
    (found : s.handlers[i]? = some h) (taken : s.install i h = some t) : Single t := by
  have member := List.mem_of_getElem? found
  have installs := fun y => live_install (y := y) taken
  simp only [State.install, Option.ite_none_right_eq_some, Option.some.injEq] at taken
  obtain ⟨⟨granted, _⟩, rfl⟩ := taken
  have early : h.phase.early = true := by rw [granted]; rfl
  have recorded := inv.pending h member early (basic.answered h member (by rw [granted]; rfl))
  -- whoever was live before is the recorded session, and that is the handler's
  have alone : ∀ y, State.Live { (s.setPhase i h .installed).setTable h.sess.gate (some s.arcs.length) with
      arcs := s.arcs ++ [⟨h.sess, true⟩] } y → y = h.sess := by
    intro y live
    cases installs y live with
    | inl same => exact same
    | inr before =>
      have other := inv.owner y before
      rw [recorded] at other
      exact (Option.some.inj other).symm
  have busyHere : ∀ y, s.session = some y → ¬ s.Settled y := by
    intro y same settled
    rw [recorded] at same
    rw [settled h member (Option.some.inj same)] at early
    cases early
  have moved : Single (s.setPhase i h .installed) := by
    apply inv.setPhase found
    · rintro ⟨⟩
    · intro installed
      rw [granted] at installed
      cases installed
  refine { moved with owner := ?_, looked := ?_, evicted := ?_, ready := ?_, written := ?_ }
  · intro y live
    rw [alone y live]
    exact recorded
  · intro y arc kicking
    have settled := (inv.looked y arc kicking).1
    exact absurd settled (busyHere y (inv.chased y (.inr (.inl ⟨_, kicking, rfl⟩))))
  · intro y evicted
    have settled := (inv.evicted y evicted).1
    exact absurd settled (busyHere y (inv.chased y (chased_of_evicted evicted)))
  · intro c isBusy waits y isOld other
    have settled := (inv.ready c isBusy waits y isOld other).1
    exact absurd settled (busyHere y ((basic.command c isBusy).symm.trans isOld))
  · intro y live
    exact .inl ⟨_, mem_setPhase_self found .installed, (alone y live).symm, rfl⟩

/-- The last executed session has the highest position. -/
theorem Single.idxOf_lt (basic : Basic s) (inv : Single s) {x y : Sess} (member : x ∈ s.executed)
    (recorded : s.session = some y) (differ : x ≠ y) :
    s.executed.idxOf x < s.executed.idxOf y := by
  have once : s.executed.Nodup := by
    have := basic.askedOnce
    rw [asked, Multiset.nodup_add] at this
    exact Multiset.coe_nodup.mp this.2.1
  have isLast : s.executed.getLast? = some y := inv.last.symm.trans recorded
  obtain ⟨front, split⟩ := List.getLast?_eq_some_iff.mp isLast
  rw [split] at member once ⊢
  have inFront : x ∈ front := by
    cases List.mem_append.mp member with
    | inl there => exact there
    | inr new => exact absurd (List.mem_singleton.mp new) differ
  have notInFront : y ∉ front := by
    intro there
    exact (List.disjoint_of_nodup_append once) there (List.mem_singleton.mpr rfl)
  rw [List.idxOf_append_of_mem inFront, List.idxOf_append_of_notMem notInFront]
  have := List.idxOf_lt_length_of_mem inFront
  omega

theorem Single.save (basic : Basic s) (inv : Single s) {i : Nat} {h : Handler}
    (found : s.handlers[i]? = some h)
    (inTurn : ∀ y ∈ s.saved, ¬ s.executed.idxOf h.sess < s.executed.idxOf y)
    (taken : s.save i h true = some t) : Single t := by
  have member := List.mem_of_getElem? found
  simp only [State.save, if_true, Option.ite_none_right_eq_some, Option.some.injEq] at taken
  obtain ⟨installed, rfl⟩ := taken
  have executed := basic.answered h member (by rw [installed]; rfl)
  rw [inv.logins h member, if_pos rfl]
  refine inv.move found (by rintro ⟨⟩) ?_ ?_
  · intro x live
    by_cases own : x = h.sess
    · subst own
      exact .inr ⟨rfl, List.mem_append_right _ (List.mem_singleton.mpr rfl)⟩
    cases inv.written x live with
    | inl writing =>
      obtain ⟨g, isHandler, rfl, there⟩ := writing
      cases mem_setPhase found .done isHandler with
      | inl same => exact absurd (congrArg Handler.sess same) own
      | inr still => exact .inl ⟨g, still, rfl, there⟩
    | inr written =>
      -- the recorded session was written already, and this one is older
      have older := inv.idxOf_lt basic executed (inv.owner x live) (Ne.symm own)
      exact absurd older (inTurn x written.2)
  · intro x isSaved
    cases List.mem_append.mp isSaved with
    | inl before => exact inv.savedExecuted x before
    | inr new =>
      rw [List.mem_singleton.mp new]
      exact executed

/-! ## The steps of a kick -/

theorem Single.deliverKick (inv : Single s) {k : Nat} {x : Sess} (found : s.kicks[k]? = some x) :
    Single ({ s with kicks := s.kicks.eraseIdx k }.spawn (.kick x true)) := by
  have old : ∀ task ∈ s.tasks ++ [.kick x true], task ≠ .kick x true → task ∈ s.tasks := by
    intro task member other
    cases List.mem_append.mp member with
    | inl before => exact before
    | inr new => exact absurd (List.mem_singleton.mp new) other
  refine { inv with tasks := ?_, oneKick := ?_, chased := ?_, looked := ?_, evicted := ?_ }
  · intro task member
    cases List.mem_append.mp member with
    | inl before => exact inv.tasks task before
    | inr new =>
      rw [List.mem_singleton.mp new]
      exact .inr rfl
  · refine Eq.trans ?_ inv.oneKick
    have inside := Pool.lt_length found
    have shorter := List.length_eraseIdx_of_lt inside
    simp only [chasing, State.spawn, Pool.total_append, Pool.total_cons, Pool.total_nil,
      Task.chases?, Option.toList_some, List.length_singleton]
    omega
  · intro y chased
    cases chased with
    | inl sent => exact inv.chased y (.inl (List.mem_of_mem_eraseIdx sent))
    | inr rest =>
      cases rest with
      | inl atWork =>
        obtain ⟨task, member, target⟩ := atWork
        cases List.mem_append.mp member with
        | inl before => exact inv.chased y (.inr (.inl ⟨task, before, target⟩))
        | inr new =>
          rw [List.mem_singleton.mp new] at target
          obtain rfl := Option.some.inj target
          exact inv.chased x (.inl (List.mem_of_getElem? found))
      | inr answered => exact inv.chased y (.inr (.inr answered))
  · intro y arc kicking
    exact inv.looked y arc (old _ kicking (by simp))
  · intro y evicted
    cases evicted with
    | inl removing =>
      obtain ⟨arc, member⟩ := removing
      exact inv.evicted y (.inl ⟨arc, old _ member (by simp)⟩)
    | inr rest =>
      cases rest with
      | inl clearing => exact inv.evicted y (.inr (.inl (old _ clearing (by simp))))
      | inr answered => exact inv.evicted y (.inr (.inr answered))

/-- Whom the kicks are after when one task has moved on. -/
theorem chased_advance {i : Nat} {next : Task} {extra : List Sess} {y : Sess} (kicks : t.kicks = s.kicks)
    (tasks : t.tasks = s.tasks.set i next) (answers : t.answers = s.answers ++ extra)
    (chased : t.Chased y) : s.Chased y ∨ next.chases? = some y ∨ y ∈ extra := by
  cases chased with
  | inl sent =>
    rw [kicks] at sent
    exact .inl (.inl sent)
  | inr rest =>
    cases rest with
    | inl atWork =>
      obtain ⟨other, member, pursued⟩ := atWork
      rw [tasks] at member
      cases List.mem_or_eq_of_mem_set member with
      | inl before => exact .inl (.inr (.inl ⟨other, before, pursued⟩))
      | inr new =>
        subst new
        exact .inr (.inl pursued)
    | inr answered =>
      rw [answers] at answered
      cases List.mem_append.mp answered with
      | inl before => exact .inl (.inr (.inr before))
      | inr new => exact .inr (.inr new)

/-- Who is evicted when one task has moved on. -/
theorem evicted_advance {i : Nat} {next : Task} {extra : List Sess} {y : Sess}
    (tasks : t.tasks = s.tasks.set i next) (answers : t.answers = s.answers ++ extra)
    (evicted : t.Evicted y) :
    s.Evicted y ∨ (next.chases? = some y ∧ ∀ arc, next ≠ .kickArc y true arc) ∨ y ∈ extra := by
  cases evicted with
  | inl removing =>
    obtain ⟨arc, member⟩ := removing
    rw [tasks] at member
    cases List.mem_or_eq_of_mem_set member with
    | inl before => exact .inl (.inl ⟨arc, before⟩)
    | inr new =>
      subst new
      exact .inr (.inl ⟨rfl, by simp⟩)
  | inr rest =>
    cases rest with
    | inl clearing =>
      rw [tasks] at clearing
      cases List.mem_or_eq_of_mem_set clearing with
      | inl before => exact .inl (.inr (.inl before))
      | inr new =>
        subst new
        exact .inr (.inl ⟨rfl, by simp⟩)
    | inr answered =>
      rw [answers] at answered
      cases List.mem_append.mp answered with
      | inl before => exact .inl (.inr (.inr before))
      | inr new => exact .inr (.inr new)

/-- A kick moves on: either it is still at work afterwards or it has answered. -/
theorem Single.advance (inv : Single s) (apart : Apart s t) {i : Nat} {task : Task} {x : Sess}
    (next : Task) (extra : List Sess) (found : s.tasks[i]? = some task) (target : task.chases? = some x)
    (tasks : t.tasks = s.tasks.set i next) (answers : t.answers = s.answers ++ extra)
    (still : next.chases?.toList ++ extra = [x]) (shape : next = .done ∨ next.chases?.isSome = true)
    (live : ∀ y, t.Live y → s.Live y ∧ t.table y.gate = s.table y.gate ∧ t.redis = s.redis)
    (looked : ∀ arc, next = .kickArc x true arc → s.Settled x ∧ (t.Live x → t.table x.gate = some arc))
    (evicted : (∃ arc, next = .kickArc x true arc) ∨ (s.Settled x ∧ ¬ t.Live x)) : Single t := by
  have settled : ∀ y, s.Settled y → t.Settled y := by
    intro y before
    rw [Settled, apart.handlers]
    exact before
  have targeted : ∀ y, next.chases? = some y ∨ y ∈ extra → y = x := by
    intro y either
    refine List.mem_singleton.mp ?_
    rw [← still, List.mem_append, Option.mem_toList]
    exact either
  have isChased : s.Chased x := .inr (.inl ⟨task, List.mem_of_getElem? found, target⟩)
  refine {
    logins := ?_, requests := ?_, tasks := ?_, last := ?_, owner := ?_, pending := ?_, oneKick := ?_,
    chased := ?_, looked := ?_, evicted := ?_, ready := ?_, written := ?_, savedExecuted := ?_ }
  · rw [apart.handlers]; exact inv.logins
  · rw [apart.requests]; exact inv.requests
  · rw [tasks]
    intro other member
    cases List.mem_or_eq_of_mem_set member with
    | inl before => exact inv.tasks other before
    | inr new =>
      subst new
      exact shape
  · rw [apart.session, apart.executed]; exact inv.last
  · intro y isLive
    rw [apart.session]
    exact inv.owner y (live y isLive).1
  · rw [apart.handlers, apart.executed, apart.session]; exact inv.pending
  · rw [apart.busy]
    refine Eq.trans ?_ inv.oneKick
    have exchanged := Pool.total_set (fun task : Task => task.chases?.toList.length) next found
    have length := congrArg List.length still
    simp only [List.length_append, List.length_singleton] at length
    simp only [target, Option.toList_some, List.length_singleton] at exchanged
    simp only [chasing, apart.kicks, tasks, answers, List.length_append]
    omega
  · intro y chased
    rw [apart.session]
    cases chased_advance apart.kicks tasks answers chased with
    | inl before => exact inv.chased y before
    | inr new =>
      rw [targeted y new]
      exact inv.chased x isChased
  · intro y arc kicking
    rw [tasks] at kicking
    cases List.mem_or_eq_of_mem_set kicking with
    | inl before =>
      obtain ⟨isSettled, mapped⟩ := inv.looked y arc before
      refine ⟨settled y isSettled, ?_⟩
      intro isLive
      obtain ⟨wasLive, same, _⟩ := live y isLive
      rw [same]
      exact mapped wasLive
    | inr new =>
      have isTarget : y = x := targeted y (.inl (by rw [← new]; rfl))
      subst isTarget
      obtain ⟨isSettled, mapped⟩ := looked arc new.symm
      exact ⟨settled y isSettled, mapped⟩
  · intro y isEvicted
    -- a kick that has answered, or has taken the connection, is past the look into the table
    have past : next.chases? = some y ∧ (∀ arc, next ≠ .kickArc y true arc) ∨ y ∈ extra →
        t.Settled y ∧ ¬ t.Live y := by
      intro new
      have isTarget : y = x := targeted y (new.imp And.left id)
      subst isTarget
      cases evicted with
      | inr gone => exact ⟨settled y gone.1, gone.2⟩
      | inl looking =>
        obtain ⟨arc, same⟩ := looking
        cases new with
        | inl working => exact absurd same (working.2 arc)
        | inr isExtra =>
          rw [same] at still
          simp only [Task.chases?, Option.toList_some, List.singleton_append, List.cons.injEq,
            true_and] at still
          rw [still] at isExtra
          cases isExtra
    cases evicted_advance tasks answers isEvicted with
    | inl before =>
      obtain ⟨isSettled, gone⟩ := inv.evicted y before
      exact ⟨settled y isSettled, fun isLive => gone (live y isLive).1⟩
    | inr new => exact past new
  · rw [apart.busy]
    intro c isBusy waits y isOld other
    obtain ⟨isSettled, gone⟩ := inv.ready c isBusy waits y isOld other
    exact ⟨settled y isSettled, fun isLive => gone (live y isLive).1⟩
  · intro y isLive
    obtain ⟨wasLive, _, redis⟩ := live y isLive
    rw [apart.handlers, apart.saved, redis]
    exact inv.written y wasLive
  · rw [apart.saved, apart.executed]; exact inv.savedExecuted

/-- The kick found nothing: the session is not in the table. -/
theorem Single.missKick (inv : Single s) {i : Nat} {task : Task} {x : Sess}
    (found : s.tasks[i]? = some task) (target : task.chases? = some x) (settled : s.Settled x)
    (gone : ¬ s.Live x) : Single (s.missKick i x true) := by
  refine inv.advance (apart_missKick s i x true) .done [x] found target
    rfl rfl rfl (.inl rfl) ?_ ?_ (.inr ⟨settled, gone⟩)
  · intro y live
    exact ⟨live, rfl, rfl⟩
  · rintro arc ⟨⟩

/-- Emptying one table ends the sessions of that Gate. -/
theorem live_of_setTable_none {gate : GateId} {y : Sess} (live : (s.setTable gate none).Live y) :
    s.Live y ∧ y.gate ≠ gate := by
  obtain ⟨arc, mapped, behind⟩ := live_iff.mp live
  change Function.update s.table gate none y.gate = some arc at mapped
  by_cases here : y.gate = gate
  · rw [here, Function.update_self] at mapped
    cases mapped
  · rw [Function.update_of_ne here] at mapped
    exact ⟨live_iff.mpr ⟨arc, mapped, behind⟩, here⟩

/-- Taking the connection of one session leaves the others. -/
theorem live_of_setArc_inactive {arc : Nat} {x y : Sess}
    (live : (s.setArc arc ⟨x, false⟩).Live y) : s.Live y ∧ s.table y.gate ≠ some arc := by
  obtain ⟨held, mapped, behind⟩ := live_iff.mp live
  change (s.arcs.set arc ⟨x, false⟩)[held]? = some ⟨y, true⟩ at behind
  cases Pool.get_set_cases behind with
  | inl same => cases same.2
  | inr other =>
    obtain ⟨differ, there⟩ := other
    refine ⟨live_iff.mpr ⟨held, mapped, there⟩, ?_⟩
    intro here
    rw [show s.table y.gate = some held from mapped] at here
    exact differ (Option.some.inj here).symm

theorem Single.kick (inv : Single s) {i : Nat} {x : Sess} (found : s.tasks[i]? = some (.kick x true))
    (inTurn : s.Settled x) (taken : s.advance i (.kick x true) = some t) : Single t := by
  simp only [State.advance] at taken
  split at taken
  case h_1 missing =>
    obtain rfl := Option.some.inj taken
    refine inv.missKick found rfl inTurn ?_
    intro live
    rw [Live, missing] at live
    cases live
  case h_2 arc mapped =>
    obtain rfl := Option.some.inj taken
    refine inv.advance { Apart.refl s with } (.kickArc x true arc) [] found rfl rfl (List.append_nil _).symm
      rfl (.inr rfl) ?_ ?_ (.inl ⟨arc, rfl⟩)
    · intro y live
      exact ⟨live, rfl, rfl⟩
    · rintro _ ⟨⟩
      exact ⟨inTurn, fun _ => mapped⟩

theorem Single.kickArc (inv : Single s) {i arc : Nat} {x : Sess}
    (found : s.tasks[i]? = some (.kickArc x true arc))
    (taken : s.advance i (.kickArc x true arc) = some t) : Single t := by
  obtain ⟨settled, looked⟩ := inv.looked x arc (List.mem_of_getElem? found)
  obtain ⟨slot, behind, rfl⟩ := Option.map_eq_some_iff.mp taken
  split
  case isTrue _ =>
    refine inv.advance { Apart.refl s with } (.kickRemove x true arc) [] found
      rfl rfl (List.append_nil _).symm rfl (.inr rfl) ?_ ?_ (.inr ⟨settled, ?_⟩)
    · intro y live
      have inactive : (s.setArc arc ⟨x, false⟩).Live y := live
      exact ⟨(live_of_setArc_inactive inactive).1, rfl, rfl⟩
    · rintro _ ⟨⟩
    · intro live
      have inactive : (s.setArc arc ⟨x, false⟩).Live x := live
      obtain ⟨wasLive, elsewhere⟩ := live_of_setArc_inactive inactive
      exact elsewhere (looked wasLive)
  case isFalse other =>
    refine inv.missKick found rfl settled ?_
    intro live
    -- the entry was looked up after the session was installed, so it would be this one
    obtain ⟨held, mapped, there⟩ := live_iff.mp live
    rw [looked live] at mapped
    obtain rfl := Option.some.inj mapped
    rw [behind] at there
    exact other (congrArg Slot.sess (Option.some.inj there))

theorem Single.kickRemove (inv : Single s) {i arc : Nat} {x : Sess}
    (found : s.tasks[i]? = some (.kickRemove x true arc))
    (taken : s.advance i (.kickRemove x true arc) = some t) : Single t := by
  obtain ⟨settled, gone⟩ := inv.evicted x (.inl ⟨arc, List.mem_of_getElem? found⟩)
  simp only [State.advance] at taken
  split at taken
  · obtain rfl := Option.some.inj taken
    refine inv.advance { Apart.refl s with } (.clear x true) [] found
      rfl rfl (List.append_nil _).symm rfl (.inr rfl) ?_ ?_ (.inr ⟨settled, ?_⟩)
    · intro y live
      obtain ⟨wasLive, elsewhere⟩ := live_of_setTable_none live
      exact ⟨wasLive, Function.update_of_ne elsewhere .., rfl⟩
    · rintro _ ⟨⟩
    · intro live
      exact gone (live_of_setTable_none live).1
  · obtain rfl := Option.some.inj taken
    refine inv.advance { Apart.refl s with } (.clear x true) [] found
      rfl rfl (List.append_nil _).symm rfl (.inr rfl) ?_ ?_ (.inr ⟨settled, gone⟩)
    · intro y live
      exact ⟨live, rfl, rfl⟩
    · rintro _ ⟨⟩

theorem live_clearRedis {x y : Sess} : (s.clearRedis x).Live y ↔ s.Live y := by
  unfold State.clearRedis
  split <;> exact Iff.rfl

theorem Single.clear (inv : Single s) {i : Nat} {x : Sess}
    (found : s.tasks[i]? = some (.clear x true))
    (taken : s.advance i (.clear x true) = some t) : Single t := by
  obtain rfl := Option.some.inj taken
  have member := List.mem_of_getElem? found
  have evicted : s.Evicted x := .inr (.inl member)
  obtain ⟨settled, gone⟩ := inv.evicted x evicted
  have apart := apart_clearRedis s x
  obtain ⟨_, tasks, answers⟩ := s.clearRedis_rest x
  refine inv.advance { apart with } .done [x] found rfl ?_ ?_ rfl (.inl rfl)
    ?_ ?_ (.inr ⟨settled, ?_⟩)
  · exact congrArg (List.set · i Task.done) tasks
  · exact congrArg (· ++ [x]) answers
  · intro y live
    have wasLive := live_clearRedis.mp live
    -- a live session would be the recorded one, and that is the evicted one
    have same := (inv.owner y wasLive).symm.trans (inv.chased x (chased_of_evicted evicted))
    rw [Option.some.inj same] at wasLive
    exact absurd wasLive gone
  · rintro _ ⟨⟩
  · intro live
    exact gone (live_clearRedis.mp live)

theorem Single.task (inv : Single s) {i : Nat} {task : Task} (found : s.tasks[i]? = some task)
    (inTurn : ∀ x ∈ task.arrives?, s.Settled x) (taken : s.advance i task = some t) : Single t := by
  have chases := inv.tasks task (List.mem_of_getElem? found)
  cases task with
  | kick x remote =>
    cases remote with
    | true => exact inv.kick found (inTurn x rfl) taken
    | false => simp [Task.chases?] at chases
  | kickArc x remote arc =>
    cases remote with
    | true => exact inv.kickArc found taken
    | false => simp [Task.chases?] at chases
  | kickRemove x remote arc =>
    cases remote with
    | true => exact inv.kickRemove found taken
    | false => simp [Task.chases?] at chases
  | clear x remote =>
    cases remote with
    | true => exact inv.clear found taken
    | false => simp [Task.chases?] at chases
  | done => cases taken
  | disconnect x | disconnectArc x arc | logout x | logoutArc x arc | invalidate x
  | notify x logout => simp [Task.chases?] at chases

/-! ## The steps of Logic -/

theorem Single.start (inv : Single s) {k : Nat} {x : Sess} {reconnect : Bool}
    (found : s.requests[k]? = some (x, reconnect)) (taken : s.start k x reconnect = some t) :
    Single t := by
  have login : reconnect = false := inv.requests _ (List.mem_of_getElem? found)
  subst login
  unfold State.start at taken
  split at taken
  case h_1 => cases taken
  case h_2 idle =>
    obtain rfl := Option.some.inj taken
    have quiet : ∀ y, ¬ s.Chased y := inv.idle (by rw [idle]; rfl)
    have none : s.chasing = 0 := by rw [inv.oneKick, idle]; rfl
    refine { inv with requests := ?_, oneKick := ?_, chased := ?_, looked := ?_, evicted := ?_, ready := ?_ }
    · intro r member
      exact inv.requests r (List.mem_of_mem_eraseIdx member)
    · unfold chasing at none
      cases recorded : s.session with
      | none =>
        simp only [chasing, Option.any_none, Bool.and_false, Option.any_some, Bool.false_eq_true,
          if_false, List.append_nil]
        exact none
      | some old =>
        by_cases same : old = x
        · simp only [chasing, Option.any_some, same, ne_eq, not_true_eq_false, decide_false,
            Bool.and_false, Bool.false_eq_true, if_false, List.append_nil]
          exact none
        · simp only [chasing, Option.any_some, same, ne_eq, not_false_eq_true, decide_true,
            Bool.not_false, Bool.and_true, if_true, Option.toList_some, List.length_append,
            List.length_singleton]
          omega
    · intro y chased
      cases chased with
      | inl sent =>
        cases List.mem_append.mp sent with
        | inl before => exact absurd (.inl before) (quiet y)
        | inr new =>
          split at new
          · exact Option.mem_toList.mp new
          · cases new
      | inr rest => exact absurd (.inr rest) (quiet y)
    · intro y arc kicking
      exact absurd (.inr (.inl ⟨_, kicking, rfl⟩)) (quiet y)
    · intro y evicted
      exact absurd (chased_of_evicted (s := s) evicted) (quiet y)
    · rintro c ⟨⟩ waits y isOld other
      -- without a kick there is no other session to replace
      change s.session = some y at isOld
      change (!false && s.session.any (· ≠ x)) = false at waits
      rw [isOld] at waits
      simp [other] at waits

theorem Single.answered (inv : Single s) {c : Command} {old : Sess} (busy : s.busy = some c)
    (isOld : c.old = some old) (waits : c.waits = true) (arrived : old ∈ s.answers) :
    Single { s with busy := some { c with waits := false }, answers := s.answers.erase old } := by
  refine { inv with oneKick := ?_, chased := ?_, evicted := ?_, ready := ?_ }
  · have one := inv.oneKick
    have shorter := List.length_erase_of_mem arrived
    have nonempty := List.length_pos_of_mem arrived
    simp only [busy, Option.any_some, waits, if_true, chasing] at one
    simp only [chasing, Option.any_some, Bool.false_eq_true, if_false]
    omega
  · intro x chased
    cases chased with
    | inl sent => exact inv.chased x (.inl sent)
    | inr rest =>
      cases rest with
      | inl atWork => exact inv.chased x (.inr (.inl atWork))
      | inr answered => exact inv.chased x (.inr (.inr (List.mem_of_mem_erase answered)))
  · intro x evicted
    cases evicted with
    | inl removing => exact inv.evicted x (.inl removing)
    | inr rest =>
      cases rest with
      | inl clearing => exact inv.evicted x (.inr (.inl clearing))
      | inr answered => exact inv.evicted x (.inr (.inr (List.mem_of_mem_erase answered)))
  · rintro _ ⟨⟩ _ x isTarget _
    rw [show c.old = some old from isOld, Option.mem_some_iff] at isTarget
    rw [← isTarget]
    exact inv.evicted old (.inr (.inr arrived))

theorem Single.execute (basic : Basic s) (inv : Single s) {c : Command} (busy : s.busy = some c)
    (taken : s.execute c = some t) : Single t := by
  simp only [State.execute, Option.ite_none_left_eq_some, Option.some.injEq] at taken
  obtain ⟨ready, rfl⟩ := taken
  have proceeds : c.waits = false := by simpa using ready
  have quiet : ∀ y, ¬ s.Chased y := inv.idle (by rw [busy]; exact proceeds)
  have none : s.chasing = 0 := by
    rw [inv.oneKick, busy, Option.any_some, proceeds]
    rfl
  -- the session that is being replaced is settled and not live
  have replaced : ∀ x, s.session = some x → x ∈ s.executed → s.Settled x ∧ ¬ s.Live x := by
    intro x recorded executed
    refine inv.ready c busy proceeds x ((basic.command c busy).trans recorded) ?_
    exact ((basic.not_outstanding executed).2 c busy).symm
  refine { inv with
    last := ?_, owner := ?_, pending := ?_, oneKick := ?_, chased := ?_, ready := ?_,
    savedExecuted := ?_ }
  · exact List.getLast?_concat.symm
  · intro x live
    have recorded := inv.owner x live
    exact absurd live (replaced x recorded (basic.recorded x recorded)).2
  · intro h member early executed
    cases List.mem_append.mp executed with
    | inl before =>
      have recorded := inv.pending h member early before
      rw [(replaced h.sess recorded before).1 h member rfl] at early
      cases early
    | inr new => rw [List.mem_singleton.mp new]
  · exact none
  · intro x chased
    exact absurd chased (quiet x)
  · rintro _ ⟨⟩
  · intro x isSaved
    exact List.mem_append_left _ (inv.savedExecuted x isSaved)

theorem single_step {l : Label} (basic : Basic s) (inv : Single s) (only : s.LoginOnly l)
    (inTurn : s.InTurn l) (taken : s.step l = some t) : Single t := by
  cases stepped_of_step taken with
  | login taken => exact inv.connect basic taken
  | @giveUp i h found => exact inv.setPhase found (by rintro ⟨⟩) (only h found)
  | request found taken => exact inv.request found taken
  | receive found taken => exact inv.receive found taken
  | install found taken => exact inv.install basic found taken
  | @save i ok h _ found taken =>
    have noFailure : ok = true := only
    subst noFailure
    exact inv.save basic found (inTurn h found) taken
  | deliverKick found => exact inv.deliverKick found
  | @task i task _ found taken => exact inv.task found (inTurn task found) taken
  | start found taken => exact inv.start found taken
  | refuse =>
    refine { inv with requests := ?_ }
    intro r member
    exact inv.requests r (List.mem_of_mem_eraseIdx member)
  | answered busy isOld waits arrived => exact inv.answered busy isOld waits arrived
  | execute busy taken => exact inv.execute basic busy taken
  | owned => exact { inv with }
  | dropResponse => exact { inv with }
  | reconnect | fetch | complete | replay | close | logout | abort | prune | timeout | unowned | undo
  | undoRefused | notice | noticeLost | dropAnswer => cases only

theorem single_reach (reached : system.Reach (fun s l => s.LoginOnly l ∧ s.InTurn l) s) :
    Single s := by
  refine reached.inv_with (fun s reached => basic_reach reached) ?_ ?_
  · rintro _ rfl
    exact single_initial
  · intro s l t basic inv allowed taken
    exact single_step basic inv allowed.1 allowed.2 taken

/-- In a run in which kicks and `save_online` come in turn, the Gates, Logic and
    Redis agree whenever nothing is under way. -/
theorem logins_in_turn_agree (reached : system.Reach (fun s l => s.LoginOnly l ∧ s.InTurn l) s)
    (quiet : s.Quiet) : s.Agreed := by
  have inv := single_reach reached
  refine ⟨?_, ?_⟩
  · intro x y first second
    have same := (inv.owner x first).symm.trans (inv.owner y second)
    exact Option.some.inj same
  · intro x live
    refine ⟨inv.owner x live, ?_⟩
    cases inv.written x live with
    | inl writing =>
      obtain ⟨h, member, _, installed⟩ := writing
      rw [quiet.handlers h member] at installed
      cases installed
    | inr written => exact written.1

/-- The kick for session 10 arrives before its Gate has installed it. -/
def overtakingKick : List Label :=
  [.login ⟨1, 10⟩, .login ⟨2, 20⟩, .request 0, .start 0, .execute, .owner 0 true, .request 1,
    .start 0, .deliverKick 0, .task 0, .answered, .execute, .owner 0 true, .receive 1, .install 1,
    .save 1 true, .receive 0, .install 0, .save 0 true]

theorem overtaken_session_stays_active :
    ¬ ∀ s : State, system.Reach LoginOnly s → s.Quiet → s.Agreed := by
  intro agreed
  have both : ∃ s, System.follow LoginOnly step .initial overtakingKick = some s
      ∧ s.Quiet ∧ s.Live ⟨1, 10⟩ ∧ s.Live ⟨2, 20⟩ := by
    decide +kernel
  obtain ⟨s, followed, quiet, first, second⟩ := both
  have same := (agreed s (System.reach_of_follow rfl followed) quiet).1 _ _ first second
  cases same

/-- The same two logins; the kick arrives after the first one was saved. -/
def logins : List Label :=
  [.login ⟨1, 10⟩, .login ⟨2, 20⟩, .request 0, .start 0, .execute, .owner 0 true, .request 1,
    .start 0, .receive 0, .install 0, .save 0 true, .deliverKick 0, .task 0, .task 0, .task 0,
    .task 0, .answered, .execute, .owner 0 true, .receive 1, .install 1, .save 1 true]

theorem logins_agree : ∃ s : State, s.Live ⟨2, 20⟩ ∧ s.Agreed := by
  have run : ∃ s, System.follow (fun s l => s.LoginOnly l ∧ s.InTurn l) step .initial logins = some s
      ∧ s.Quiet ∧ s.Live ⟨2, 20⟩ := by
    decide +kernel
  obtain ⟨s, followed, quiet, live⟩ := run
  exact ⟨s, live, logins_in_turn_agree (System.reach_of_follow rfl followed) quiet⟩

end State

end Xkk.Cluster
