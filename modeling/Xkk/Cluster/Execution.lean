import Mathlib.Algebra.Order.Group.Multiset
import Mathlib.Data.List.Perm.Basic
import Mathlib.Data.Multiset.UnionInter
import Xkk.Cluster.Player

/-! # What holds in every run

Each session asks Logic once and is executed at most once; whatever a Gate holds
for a session came after its execution.  Nothing here depends on how handlers
end, on timeouts or on failures.
-/

namespace Xkk.Cluster

open Xkk.Lib Xkk.Gate

/-- Logic has answered the handler. -/
def Phase.answered : Phase → Bool
  | .granted | .completing _ | .installed | .replaying => true
  | _ => false

/-- Logic has not been asked yet. -/
def Phase.unasked : Phase → Bool
  | .verifying | .authorizing _ => true
  | _ => false

namespace State

variable {s t : State}

/-- The sessions whose login Logic has been asked for and did not refuse. -/
def asked (s : State) : Multiset Sess :=
  (s.requests.map Prod.fst : Multiset Sess) + (s.busy.toList.map Command.sess : Multiset Sess)
    + (s.executed : Multiset Sess)

/-- A `KickSessionReq` for `x` has not reached the session lock yet. -/
def Kicking (s : State) (x : Sess) : Prop :=
  x ∈ s.kicks ∨ .kick x true ∈ s.tasks ∨ ∃ arc, .kickArc x true arc ∈ s.tasks

structure Basic (s : State) : Prop where
  handlerUsed : ∀ h ∈ s.handlers, h.sess ∈ s.used
  handlerOnce : ∀ (i j : Nat) (h g : Handler), s.handlers[i]? = some h → s.handlers[j]? = some g →
    h.sess = g.sess → i = j
  askedUsed : ∀ x ∈ s.asked, x ∈ s.used
  askedOnce : s.asked.Nodup
  unasked : ∀ h ∈ s.handlers, h.phase.unasked = true → h.sess ∉ s.asked
  answered : ∀ h ∈ s.handlers, h.phase.answered = true → h.sess ∈ s.executed
  responded : ∀ x, (x, true) ∈ s.responses → x ∈ s.executed
  owned : ∀ x ∈ s.owners, x ∈ s.executed
  slots : ∀ slot ∈ s.arcs, slot.sess ∈ s.executed
  -- the session that a reconnect resumes was executed before, so Logic cannot come back to it
  previous : ∀ h ∈ s.handlers, ∀ p ∈ h.previous, h.phase.pending = true →
    ⟨h.sess.gate, p⟩ ∈ s.executed ∧ (h.sess ∈ s.executed → s.session ≠ some ⟨h.sess.gate, p⟩)
  recorded : ∀ x, s.session = some x → x ∈ s.executed
  command : ∀ c ∈ s.busy, c.old = s.session
  kicked : ∀ x, s.Kicking x → x ∈ s.executed ∧ (s.session = some x → s.busy.isSome = true)

theorem mem_asked {x : Sess} :
    x ∈ s.asked ↔ x ∈ s.requests.map Prod.fst ∨ (∃ c ∈ s.busy, c.sess = x) ∨ x ∈ s.executed := by
  simp only [asked, Multiset.mem_add, Multiset.mem_coe, List.mem_map, Option.mem_toList, or_assoc,
    Option.mem_def]

theorem executed_asked {x : Sess} (member : x ∈ s.executed) : x ∈ s.asked :=
  mem_asked.mpr (.inr (.inr member))

/-- Logic is not asked for a session again once it was executed. -/
theorem Basic.not_outstanding (inv : Basic s) {x : Sess} (member : x ∈ s.executed) :
    x ∉ s.requests.map Prod.fst ∧ ∀ c ∈ s.busy, c.sess ≠ x := by
  have once := inv.askedOnce
  rw [asked, Multiset.nodup_add] at once
  obtain ⟨_, _, apart⟩ := once
  have free := Multiset.disjoint_right.mp apart (Multiset.mem_coe.mpr member)
  rw [Multiset.mem_add, not_or] at free
  refine ⟨fun there => free.1 (Multiset.mem_coe.mpr there), ?_⟩
  rintro c isBusy rfl
  refine free.2 (Multiset.mem_coe.mpr (List.mem_map_of_mem ?_))
  exact Option.mem_toList.mpr isBusy

theorem basic_initial : Basic State.initial where
  handlerUsed := by rintro _ ⟨⟩
  handlerOnce := by
    intro i j h g found
    simp [State.initial] at found
  askedUsed := by rintro _ ⟨⟩
  askedOnce := Multiset.nodup_zero
  unasked := by rintro _ ⟨⟩
  answered := by rintro _ ⟨⟩
  responded := by rintro _ ⟨⟩
  owned := by rintro _ ⟨⟩
  slots := by rintro _ ⟨⟩
  previous := by rintro _ ⟨⟩
  recorded := by rintro _ ⟨⟩
  command := by rintro _ ⟨⟩
  kicked := by
    rintro x (⟨⟨⟩⟩ | ⟨⟨⟩⟩ | ⟨arc, ⟨⟩⟩)

/-- Steps that leave the handlers and the commands of Logic alone. -/
theorem Basic.frame (inv : Basic s) (handlers : t.handlers = s.handlers) (used : t.used = s.used)
    (requests : t.requests = s.requests) (busy : t.busy = s.busy)
    (executed : t.executed = s.executed) (session : t.session = s.session)
    (responses : ∀ x, (x, true) ∈ t.responses → x ∈ s.executed)
    (owners : ∀ x ∈ t.owners, x ∈ s.owners)
    (slots : ∀ slot ∈ t.arcs, slot.sess ∈ s.executed)
    (kicking : ∀ x, t.Kicking x → s.Kicking x) : Basic t where
  handlerUsed := by rw [handlers, used]; exact inv.handlerUsed
  handlerOnce := by rw [handlers]; exact inv.handlerOnce
  askedUsed := by rw [asked, requests, busy, executed, used]; exact inv.askedUsed
  askedOnce := by rw [asked, requests, busy, executed]; exact inv.askedOnce
  unasked := by rw [asked, requests, busy, executed, handlers]; exact inv.unasked
  answered := by rw [handlers, executed]; exact inv.answered
  responded := by rw [executed]; exact responses
  owned := by
    rw [executed]
    intro x member
    exact inv.owned x (owners x member)
  slots := by rw [executed]; exact slots
  previous := by rw [handlers, executed, session]; exact inv.previous
  recorded := by rw [session, executed]; exact inv.recorded
  command := by rw [busy, session]; exact inv.command
  kicked := by
    intro x kicks
    rw [executed, session, busy]
    exact inv.kicked x (kicking x kicks)

/-- A handler moves to another phase. -/
theorem Basic.phase (inv : Basic s) {i : Nat} {h : Handler} (found : s.handlers[i]? = some h)
    {phase : Phase} (unasked : phase.unasked = true → h.sess ∉ s.asked)
    (answered : phase.answered = true → h.sess ∈ s.executed)
    (previous : ∀ p ∈ h.previous, phase.pending = true →
      ⟨h.sess.gate, p⟩ ∈ s.executed ∧ (h.sess ∈ s.executed → s.session ≠ some ⟨h.sess.gate, p⟩)) :
    Basic (s.setPhase i h phase) := by
  have cases : ∀ g ∈ s.handlers.set i { h with phase := phase }, g = { h with phase := phase } ∨ g ∈ s.handlers := by
    intro g member
    exact (List.mem_or_eq_of_mem_set member).symm
  have member := List.mem_of_getElem? found
  refine { inv with handlerUsed := ?_, handlerOnce := ?_, unasked := ?_, answered := ?_, previous := ?_ }
  · intro g isHandler
    rcases cases g isHandler with rfl | before
    · exact inv.handlerUsed h member
    · exact inv.handlerUsed g before
  · intro j k g g' first second same
    have back : ∀ {j : Nat} {g : Handler}, (s.handlers.set i { h with phase := phase })[j]? = some g →
        ∃ old, s.handlers[j]? = some old ∧ old.sess = g.sess := by
      intro j g there
      rcases Pool.get_set_cases there with ⟨rfl, rfl⟩ | ⟨_, there⟩
      · exact ⟨h, found, rfl⟩
      · exact ⟨g, there, rfl⟩
    obtain ⟨old, there, sess⟩ := back first
    obtain ⟨old', there', sess'⟩ := back second
    exact inv.handlerOnce j k old old' there there' (sess.trans (same.trans sess'.symm))
  · intro g isHandler
    rcases cases g isHandler with rfl | before
    · exact unasked
    · exact inv.unasked g before
  · intro g isHandler
    rcases cases g isHandler with rfl | before
    · exact answered
    · exact inv.answered g before
  · intro g isHandler
    rcases cases g isHandler with rfl | before
    · exact previous
    · exact inv.previous g before

/-- Logic forgets its session while no command runs. -/
theorem Basic.forget (inv : Basic s) (idle : s.busy = none) (x : Sess) : Basic (s.forget x) := by
  unfold State.forget
  split
  case isFalse => exact inv
  case isTrue =>
    refine { inv with previous := ?_, recorded := ?_, command := ?_, kicked := ?_ }
    · intro h isHandler p isPrevious pending
      exact ⟨(inv.previous h isHandler p isPrevious pending).1, fun _ => by simp⟩
    · rintro _ ⟨⟩
    · intro c isBusy
      rw [show s.busy = none from idle] at isBusy
      cases isBusy
    · intro y kicks
      exact ⟨(inv.kicked y kicks).1, fun recorded => by cases recorded⟩

/-! ## The steps of a handler -/

theorem Basic.connect (inv : Basic s) {x : Sess} {previous : Option SessionId}
    (taken : s.connect x previous = some t) : Basic t := by
  simp only [State.connect, Option.ite_none_left_eq_some, Option.some.injEq] at taken
  obtain ⟨fresh, rfl⟩ := taken
  have cases : ∀ g ∈ s.handlers ++ [⟨x, previous, .verifying⟩],
      g ∈ s.handlers ∨ g = ⟨x, previous, .verifying⟩ := by
    intro g member
    simpa using member
  refine { inv with
    handlerUsed := ?_, handlerOnce := ?_, askedUsed := ?_, unasked := ?_, answered := ?_,
    previous := ?_ }
  · intro g member
    rcases cases g member with before | rfl
    · exact List.mem_append_left _ (inv.handlerUsed g before)
    · simp
  · intro i j h g first second same
    rcases Pool.get_append_cases first with ⟨rfl, rfl⟩ | ⟨_, first⟩
    · rcases Pool.get_append_cases second with ⟨rfl, rfl⟩ | ⟨_, second⟩
      · rfl
      · have known := inv.handlerUsed g (List.mem_of_getElem? second)
        rw [← same] at known
        exact absurd known fresh
    · rcases Pool.get_append_cases second with ⟨rfl, rfl⟩ | ⟨_, second⟩
      · have known := inv.handlerUsed h (List.mem_of_getElem? first)
        rw [same] at known
        exact absurd known fresh
      · exact inv.handlerOnce i j h g first second same
  · intro y member
    exact List.mem_append_left _ (inv.askedUsed y member)
  · intro g member early
    rcases cases g member with before | rfl
    · exact inv.unasked g before early
    · exact fun isAsked => fresh (inv.askedUsed x isAsked)
  · intro g member answered
    rcases cases g member with before | rfl
    · exact inv.answered g before answered
    · cases answered
  · intro g member p isPrevious pending
    rcases cases g member with before | rfl
    · exact inv.previous g before p isPrevious pending
    · cases pending

/-- Ending a handler asks for nothing. -/
theorem Basic.finish (inv : Basic s) {i : Nat} {h : Handler} (found : s.handlers[i]? = some h) :
    Basic (s.setPhase i h .done) := by
  apply inv.phase found
  · rintro ⟨⟩
  · rintro ⟨⟩
  · rintro p _ ⟨⟩

theorem Basic.fetch (inv : Basic s) {i : Nat} {h : Handler} (found : s.handlers[i]? = some h)
    (taken : s.fetch i h = some t) : Basic t := by
  have member := List.mem_of_getElem? found
  unfold State.fetch at taken
  split at taken
  case h_1 p verifying previous =>
    simp only [Option.map_eq_some_iff] at taken
    obtain ⟨arc, _, rfl⟩ := taken
    apply inv.phase found
    · intro _
      exact inv.unasked h member (by rw [verifying]; rfl)
    · rintro ⟨⟩
    · rintro q _ ⟨⟩
  case h_2 p granted previous =>
    split at taken
    · obtain rfl := Option.some.inj taken
      apply inv.phase found
      · rintro ⟨⟩
      · intro _
        exact inv.answered h member (by rw [granted]; rfl)
      · intro q isPrevious _
        exact inv.previous h member q isPrevious (by rw [granted]; rfl)
    · obtain rfl := Option.some.inj taken
      exact inv.finish found
  case h_3 => cases taken

/-- A handler that has not asked yet sends its request. -/
theorem Basic.ask (inv : Basic s) {i : Nat} {h : Handler} (found : s.handlers[i]? = some h)
    (unasked : h.phase.unasked = true) (reconnect : Bool)
    (previous : ∀ p ∈ h.previous, ⟨h.sess.gate, p⟩ ∈ s.executed) :
    Basic { s.setPhase i h .awaiting with requests := s.requests ++ [(h.sess, reconnect)] } := by
  have member := List.mem_of_getElem? found
  have fresh := inv.unasked h member unasked
  have moved : Basic (s.setPhase i h .awaiting) := by
    apply inv.phase found
    · rintro ⟨⟩
    · rintro ⟨⟩
    · intro p isPrevious _
      exact ⟨previous p isPrevious, fun executed => absurd (executed_asked executed) fresh⟩
  have grown : asked { s.setPhase i h .awaiting with requests := s.requests ++ [(h.sess, reconnect)] } =
      h.sess ::ₘ s.asked := by
    simp only [asked, setPhase, List.map_append, List.map_cons, List.map_nil, ← Multiset.coe_add,
      Multiset.coe_singleton, ← Multiset.singleton_add]
    abel
  refine { moved with askedUsed := ?_, askedOnce := ?_, unasked := ?_ }
  · rw [grown]
    intro x isAsked
    rcases Multiset.mem_cons.mp isAsked with rfl | before
    · exact inv.handlerUsed h member
    · exact inv.askedUsed x before
  · rw [grown]
    exact Multiset.nodup_cons.mpr ⟨fresh, inv.askedOnce⟩
  · intro g isHandler early
    rw [grown, Multiset.mem_cons, not_or]
    refine ⟨?_, moved.unasked g isHandler early⟩
    intro same
    -- the only handler of this session has just left that phase
    obtain ⟨j, there⟩ := List.mem_iff_getElem?.mp isHandler
    rcases Pool.get_set_cases there with ⟨_, rfl⟩ | ⟨differ, old⟩
    · cases early
    · exact differ (inv.handlerOnce i j h g found old same.symm)

theorem Basic.request (inv : Basic s) {i : Nat} {h : Handler} (found : s.handlers[i]? = some h)
    (taken : s.request i h = some t) : Basic t := by
  unfold State.request at taken
  split at taken
  case h_1 verifying previous =>
    obtain rfl := Option.some.inj taken
    apply inv.ask found (by rw [verifying]; rfl)
    intro p isPrevious
    rw [previous] at isPrevious
    cases isPrevious
  case h_2 arc p authorizing previous =>
    simp only [Option.ite_none_right_eq_some, Option.some.injEq] at taken
    obtain ⟨allowed, rfl⟩ := taken
    apply inv.ask found (by rw [authorizing]; rfl)
    intro q isPrevious
    rw [previous, Option.mem_some_iff] at isPrevious
    obtain ⟨slot, held, same⟩ := (Option.any_eq_true _ _).mp allowed
    rw [← isPrevious, ← of_decide_eq_true same]
    exact inv.slots slot (List.mem_of_getElem? held)
  case h_3 => cases taken

theorem Basic.receive (inv : Basic s) {i : Nat} {h : Handler} (found : s.handlers[i]? = some h)
    (taken : s.receive i h = some t) : Basic t := by
  have member := List.mem_of_getElem? found
  simp only [State.receive, Option.ite_none_right_eq_some, Option.map_eq_some_iff] at taken
  obtain ⟨awaiting, ⟨x, ok⟩, arrived, rfl⟩ := taken
  have isResponse := List.mem_of_find?_eq_some arrived
  have same : x = h.sess := by simpa using List.find?_some arrived
  have moved : Basic (s.setPhase i h (if ok then .granted else .done)) := by
    cases ok with
    | false => exact inv.finish found
    | true =>
      rw [same] at isResponse
      apply inv.phase found
      · rintro ⟨⟩
      · intro _
        exact inv.responded h.sess isResponse
      · intro p isPrevious _
        exact inv.previous h member p isPrevious (by rw [awaiting]; rfl)
  refine { moved with responded := ?_ }
  intro y isResponse
  exact inv.responded y (List.mem_of_mem_erase isResponse)

theorem Basic.install (inv : Basic s) {i : Nat} {h : Handler} (found : s.handlers[i]? = some h)
    (taken : s.install i h = some t) : Basic t := by
  have member := List.mem_of_getElem? found
  simp only [State.install, Option.ite_none_right_eq_some, Option.some.injEq] at taken
  obtain ⟨⟨granted, _⟩, rfl⟩ := taken
  have executed := inv.answered h member (by rw [granted]; rfl)
  have moved : Basic (s.setPhase i h .installed) := by
    apply inv.phase found
    · rintro ⟨⟩
    · intro _
      exact executed
    · rintro p _ ⟨⟩
  refine { moved with slots := ?_ }
  intro slot isSlot
  rcases List.mem_append.mp isSlot with before | new
  · exact inv.slots slot before
  · rw [List.mem_singleton.mp new]
    exact executed

theorem Basic.complete (inv : Basic s) {i : Nat} {h : Handler} (found : s.handlers[i]? = some h)
    {passes : Bool} (taken : s.complete i h passes = some t) : Basic t := by
  have member := List.mem_of_getElem? found
  unfold State.complete at taken
  split at taken
  case h_2 => cases taken
  case h_1 arc p completing previous =>
    simp only [Option.map_eq_some_iff] at taken
    obtain ⟨slot, _, rfl⟩ := taken
    split
    · have executed := inv.answered h member (by rw [completing]; rfl)
      have moved : Basic (s.setPhase i h .installed) := by
        apply inv.phase found
        · rintro ⟨⟩
        · intro _
          exact executed
        · rintro p _ ⟨⟩
      refine { moved with slots := ?_ }
      intro other isSlot
      rcases List.mem_or_eq_of_mem_set isSlot with before | rfl
      · exact inv.slots other before
      · exact executed
    · exact inv.finish found

theorem Basic.spawn_local (inv : Basic s) (x : Sess) : Basic (s.spawn (.kick x false)) := by
  refine inv.frame rfl rfl rfl rfl rfl rfl inv.responded (fun _ member => member) inv.slots ?_
  rintro y (kicks | kicks | ⟨arc, kicks⟩)
  · exact .inl kicks
  · exact .inr (.inl (by simpa [State.spawn] using kicks))
  · exact .inr (.inr ⟨arc, by simpa [State.spawn] using kicks⟩)

theorem Basic.save (inv : Basic s) {i : Nat} {h : Handler} (found : s.handlers[i]? = some h)
    {ok : Bool} (taken : s.save i h ok = some t) : Basic t := by
  have member := List.mem_of_getElem? found
  unfold State.save at taken
  split at taken
  case isFalse => cases taken
  case isTrue installed =>
    cases ok with
    | false =>
      obtain rfl := Option.some.inj taken
      exact (inv.finish found).spawn_local h.sess
    | true =>
      obtain rfl := Option.some.inj taken
      have moved : Basic (s.setPhase i h (if h.previous = none then .done else .replaying)) := by
        split
        · exact inv.finish found
        · apply inv.phase found
          · rintro ⟨⟩
          · intro _
            exact inv.answered h member (by rw [installed]; rfl)
          · rintro p _ ⟨⟩
      exact { moved with }

theorem Basic.replay (inv : Basic s) {i : Nat} {h : Handler} (found : s.handlers[i]? = some h)
    {ok : Bool} (taken : s.replay i h ok = some t) : Basic t := by
  simp only [State.replay, Option.ite_none_right_eq_some, Option.some.injEq] at taken
  obtain ⟨_, rfl⟩ := taken
  split
  · exact inv.finish found
  · exact (inv.finish found).spawn_local h.sess

/-! ## The steps of the other work -/

/-- What the tasks of a Gate leave alone. -/
structure Apart (s t : State) : Prop where
  handlers : t.handlers = s.handlers
  used : t.used = s.used
  requests : t.requests = s.requests
  responses : t.responses = s.responses
  kicks : t.kicks = s.kicks
  session : t.session = s.session
  busy : t.busy = s.busy
  owners : t.owners = s.owners
  undos : t.undos = s.undos
  executed : t.executed = s.executed
  saved : t.saved = s.saved

theorem Apart.refl (s : State) : Apart s s :=
  ⟨rfl, rfl, rfl, rfl, rfl, rfl, rfl, rfl, rfl, rfl, rfl⟩

theorem apart_missKick (s : State) (i : Nat) (x : Sess) (remote : Bool) :
    Apart s (s.missKick i x remote) := by
  unfold missKick
  split <;> exact { Apart.refl s with }

theorem apart_clearRedis (s : State) (x : Sess) : Apart s (s.clearRedis x) := by
  unfold clearRedis
  split <;> exact { Apart.refl s with }

/-- What a step of a task can do. -/
inductive Advances (s : State) (i : Nat) : Task → State → Prop
  -- the task looks something up, or finds that there is nothing to do
  | moved {task next : Task} : (∀ x logout, task ≠ .notify x logout) → (∀ x remote, next ≠ .kick x remote) →
      (∀ x remote arc, next = .kickArc x remote arc → task = .kick x remote) →
      Advances s i task (s.setTask i next)
  | missed {task : Task} {x : Sess} {remote : Bool} :
      task = .kick x remote ∨ (∃ arc, task = .kickArc x remote arc) →
      Advances s i task (s.missKick i x remote)
  | unbound {x : Sess} {arc : Nat} : s.arcs[arc]? = some ⟨x, true⟩ →
      Advances s i (.disconnectArc x arc) ((s.setArc arc ⟨x, false⟩).setTask i (.notify x false))
  | kicked {x : Sess} {remote : Bool} {arc : Nat} {slot : Slot} : s.arcs[arc]? = some slot → slot.sess = x →
      Advances s i (.kickArc x remote arc) ((s.setArc arc ⟨x, false⟩).setTask i (.kickRemove x remote arc))
  | removed {x : Sess} {remote : Bool} {arc : Nat} : s.table x.gate = some arc →
      Advances s i (.kickRemove x remote arc) ((s.setTable x.gate none).setTask i (.clear x remote))
  | invalidated {x : Sess} : ((s.table x.gate).bind (s.arcs[·]?)).any (·.sess = x) = true →
      Advances s i (.invalidate x) ((s.setTable x.gate none).setTask i (.notify x true))
  | notified {x : Sess} {logout : Bool} :
      Advances s i (.notify x logout) { s.setTask i (.clear x false) with notices := s.notices ++ [x] }
  | cleared {x : Sess} {remote : Bool} :
      Advances s i (.clear x remote)
        (if remote then { (s.clearRedis x).setTask i .done with answers := (s.clearRedis x).answers ++ [x] }
          else (s.clearRedis x).setTask i .done)

theorem advances_of_advance {i : Nat} {task : Task} (taken : s.advance i task = some t) : Advances s i task t := by
  cases task with
  | disconnect x | logout x =>
    simp only [advance] at taken
    split at taken <;> cases taken <;> exact .moved (by simp) (by simp) (by simp)
  | kick x remote =>
    simp only [advance] at taken
    split at taken <;> cases taken
    · exact .missed (.inl rfl)
    · exact .moved (by simp) (by simp) (by simp)
  | disconnectArc x arc =>
    simp only [advance, Option.map_eq_some_iff] at taken
    obtain ⟨slot, held, rfl⟩ := taken
    split
    · next isFor =>
      subst isFor
      exact .unbound held
    · exact .moved (by simp) (by simp) (by simp)
  | logoutArc x arc =>
    simp only [advance, Option.map_eq_some_iff] at taken
    obtain ⟨slot, _, rfl⟩ := taken
    split <;> exact .moved (by simp) (by simp) (by simp)
  | kickArc x remote arc =>
    simp only [advance, Option.map_eq_some_iff] at taken
    obtain ⟨slot, held, rfl⟩ := taken
    split
    · next isFor => exact .kicked held isFor
    · exact .missed (.inr ⟨arc, rfl⟩)
  | kickRemove x remote arc =>
    simp only [advance] at taken
    split at taken <;> cases taken
    · next mapped => exact .removed mapped
    · exact .moved (by simp) (by simp) (by simp)
  | invalidate x =>
    simp only [advance] at taken
    split at taken <;> cases taken
    · next isFor => exact .invalidated isFor
    · exact .moved (by simp) (by simp) (by simp)
  | notify x logout =>
    cases taken
    exact .notified
  | clear x remote =>
    cases taken
    exact .cleared
  | done => cases taken

theorem apart_advance {i : Nat} {task : Task} (taken : s.advance i task = some t) : Apart s t := by
  cases advances_of_advance taken with
  | missed _ => exact apart_missKick s i _ _
  | @cleared x remote =>
    have cleared := apart_clearRedis s x
    split <;> exact { cleared with }
  | _ => exact { Apart.refl s with }

theorem clearRedis_rest (s : State) (x : Sess) :
    (s.clearRedis x).arcs = s.arcs ∧ (s.clearRedis x).tasks = s.tasks ∧ (s.clearRedis x).answers = s.answers := by
  unfold clearRedis
  split <;> exact ⟨rfl, rfl, rfl⟩

/-- A task only rewrites sessions in place. -/
theorem slots_advance {i : Nat} {task : Task} (taken : s.advance i task = some t) :
    ∀ slot ∈ t.arcs, ∃ old ∈ s.arcs, old.sess = slot.sess := by
  have same : ∀ u : State, u.arcs = s.arcs → ∀ slot ∈ u.arcs, ∃ old ∈ s.arcs, old.sess = slot.sess := by
    intro u equal slot member
    exact ⟨slot, equal ▸ member, rfl⟩
  have rewritten : ∀ {arc : Nat} {slot : Slot} {x : Sess}, s.arcs[arc]? = some slot → slot.sess = x →
      ∀ other ∈ s.arcs.set arc ⟨x, false⟩, ∃ old ∈ s.arcs, old.sess = other.sess := by
    intro arc slot x held isFor other member
    rcases List.mem_or_eq_of_mem_set member with before | rfl
    · exact same s rfl other before
    · exact ⟨slot, List.mem_of_getElem? held, isFor⟩
  cases advances_of_advance taken with
  | moved _ _ _ => exact same _ rfl
  | missed _ =>
    apply same
    unfold missKick
    split <;> rfl
  | unbound held => exact rewritten held rfl
  | kicked held isFor => exact rewritten held isFor
  | removed _ => exact same _ rfl
  | invalidated _ => exact same _ rfl
  | notified => exact same _ rfl
  | @cleared x remote =>
    apply same
    split <;> exact (s.clearRedis_rest x).1

/-- The task that takes the place of another one. -/
theorem tasks_advance {i : Nat} {task : Task} (taken : s.advance i task = some t) :
    ∃ next, t.tasks = s.tasks.set i next
    ∧ (∀ x remote, next ≠ .kick x remote)
    ∧ ∀ x remote arc, next = .kickArc x remote arc → task = .kick x remote := by
  cases advances_of_advance taken with
  | @moved task next _ notKick fromKick => exact ⟨next, rfl, notKick, fromKick⟩
  | @missed task x remote _ =>
    unfold missKick
    split
    · exact ⟨.done, rfl, by simp, by simp⟩
    · exact ⟨.clear x false, rfl, by simp, by simp⟩
  | @cleared x remote =>
    refine ⟨.done, ?_, by simp, by simp⟩
    split <;> exact congrArg (List.set · i Task.done) (s.clearRedis_rest x).2.1
  | _ => exact ⟨_, rfl, by simp, by simp⟩

theorem Basic.task (inv : Basic s) {i : Nat} {task : Task} (found : s.tasks[i]? = some task)
    (taken : s.advance i task = some t) : Basic t := by
  have apart := apart_advance taken
  obtain ⟨next, tasks, notKick, fromKick⟩ := tasks_advance taken
  refine inv.frame apart.handlers apart.used apart.requests apart.busy apart.executed apart.session
    ?_ ?_ ?_ ?_
  · rw [apart.responses]; exact inv.responded
  · rw [apart.owners]; exact fun _ member => member
  · intro slot member
    obtain ⟨old, isOld, same⟩ := slots_advance taken slot member
    rw [← same]
    exact inv.slots old isOld
  · rintro x (kicks | kicks | ⟨arc, kicks⟩)
    · exact .inl (by rwa [apart.kicks] at kicks)
    · rw [tasks] at kicks
      rcases List.mem_or_eq_of_mem_set kicks with before | same
      · exact .inr (.inl before)
      · exact absurd same.symm (notKick x true)
    · rw [tasks] at kicks
      rcases List.mem_or_eq_of_mem_set kicks with before | same
      · exact .inr (.inr ⟨arc, before⟩)
      · rw [fromKick x true arc same.symm] at found
        exact .inr (.inl (List.mem_of_getElem? found))

/-! ## The steps of Logic -/

/-- Taking a request out of the queue. -/
theorem requests_eraseIdx {k : Nat} {x : Sess} {reconnect : Bool}
    (found : s.requests[k]? = some (x, reconnect)) :
    (s.requests.map Prod.fst : Multiset Sess) =
      x ::ₘ ((s.requests.eraseIdx k).map Prod.fst : Multiset Sess) := by
  obtain ⟨inside, same⟩ := List.getElem?_eq_some_iff.mp found
  have split := (List.getElem_cons_eraseIdx_perm inside).map Prod.fst
  rw [same] at split
  exact (Multiset.coe_eq_coe.mpr split).symm

theorem Basic.start (inv : Basic s) {k : Nat} {x : Sess} {reconnect : Bool}
    (found : s.requests[k]? = some (x, reconnect)) (taken : s.start k x reconnect = some t) :
    Basic t := by
  unfold State.start at taken
  split at taken
  case h_1 => cases taken
  case h_2 idle =>
    obtain rfl := Option.some.inj taken
    have same : asked { s with
        requests := s.requests.eraseIdx k
        busy := some ⟨x, s.session, !reconnect && s.session.any (· ≠ x)⟩
        kicks := s.kicks ++ (if !reconnect && s.session.any (· ≠ x) then s.session.toList else []) } =
        s.asked := by
      simp only [asked, requests_eraseIdx found, idle, Option.toList_some, Option.toList_none,
        List.map_cons, List.map_nil, Multiset.coe_singleton, Multiset.coe_nil,
        ← Multiset.singleton_add]
      abel
    refine { inv with askedUsed := ?_, askedOnce := ?_, unasked := ?_, command := ?_, kicked := ?_ }
    · rw [same]; exact inv.askedUsed
    · rw [same]; exact inv.askedOnce
    · rw [same]; exact inv.unasked
    · rintro c ⟨⟩
      rfl
    · intro y kicks
      refine ⟨?_, fun _ => rfl⟩
      rcases kicks with kicks | kicks
      · rcases List.mem_append.mp kicks with before | new
        · exact (inv.kicked y (.inl before)).1
        · split at new
          · exact inv.recorded y (Option.mem_toList.mp new)
          · cases new
      · exact (inv.kicked y (.inr kicks)).1

theorem Basic.refuse (inv : Basic s) {k : Nat} {x : Sess} {reconnect : Bool}
    (found : s.requests[k]? = some (x, reconnect)) :
    Basic { s with requests := s.requests.eraseIdx k, responses := s.responses ++ [(x, false)] } := by
  have shrunk : s.asked = x ::ₘ asked
      { s with requests := s.requests.eraseIdx k, responses := s.responses ++ [(x, false)] } := by
    simp only [asked, requests_eraseIdx found, Multiset.cons_add]
  have sub : ∀ y, y ∈ asked
      { s with requests := s.requests.eraseIdx k, responses := s.responses ++ [(x, false)] } →
      y ∈ s.asked := by
    intro y member
    rw [shrunk]
    exact Multiset.mem_cons_of_mem member
  refine { inv with askedUsed := ?_, askedOnce := ?_, unasked := ?_, responded := ?_ }
  · intro y member
    exact inv.askedUsed y (sub y member)
  · have once := inv.askedOnce
    rw [shrunk] at once
    exact (Multiset.nodup_cons.mp once).2
  · intro h isHandler unasked member
    exact inv.unasked h isHandler unasked (sub _ member)
  · intro y member
    rcases List.mem_append.mp member with before | new
    · exact inv.responded y before
    · simp at new

/-- The command stops waiting. -/
theorem Basic.proceed (inv : Basic s) {c : Command} (busy : s.busy = some c) (answers : List Sess) :
    Basic { s with busy := some { c with waits := false }, answers := answers } := by
  have same : asked { s with busy := some { c with waits := false }, answers := answers } = s.asked := by
    simp only [asked, busy, Option.toList_some, List.map_cons, List.map_nil]
  refine { inv with askedUsed := ?_, askedOnce := ?_, unasked := ?_, command := ?_, kicked := ?_ }
  · rw [same]; exact inv.askedUsed
  · rw [same]; exact inv.askedOnce
  · rw [same]; exact inv.unasked
  · rintro _ ⟨⟩
    exact inv.command c busy
  · intro x kicks
    exact ⟨(inv.kicked x kicks).1, fun _ => rfl⟩

theorem Basic.execute (inv : Basic s) {c : Command} (busy : s.busy = some c)
    (taken : s.execute c = some t) : Basic t := by
  simp only [State.execute, Option.ite_none_left_eq_some, Option.some.injEq] at taken
  obtain ⟨_, rfl⟩ := taken
  have same : asked { s with
      session := some c.sess
      busy := none
      owners := s.owners ++ [c.sess]
      executed := s.executed ++ [c.sess] } = s.asked := by
    simp only [asked, busy, Option.toList_some, Option.toList_none, List.map_cons, List.map_nil,
      Multiset.coe_nil, ← Multiset.coe_add]
    abel
  -- the session was not executed before
  have fresh : ∀ x ∈ s.executed, x ≠ c.sess := by
    intro x member
    exact ((inv.not_outstanding member).2 c busy).symm
  have grown : ∀ {x : Sess}, x ∈ s.executed → x ∈ s.executed ++ [c.sess] := List.mem_append_left _
  refine { inv with
    askedUsed := ?_, askedOnce := ?_, unasked := ?_, answered := ?_, responded := ?_, owned := ?_,
    slots := ?_, previous := ?_, recorded := ?_, command := ?_, kicked := ?_ }
  · rw [same]; exact inv.askedUsed
  · rw [same]; exact inv.askedOnce
  · rw [same]; exact inv.unasked
  · intro h isHandler answered
    exact grown (inv.answered h isHandler answered)
  · intro x member
    exact grown (inv.responded x member)
  · intro x member
    rcases List.mem_append.mp member with before | new
    · exact grown (inv.owned x before)
    · exact List.mem_append_right _ new
  · intro slot member
    exact grown (inv.slots slot member)
  · intro h isHandler p isPrevious pending
    have before := (inv.previous h isHandler p isPrevious pending).1
    refine ⟨grown before, ?_⟩
    intro _ recorded
    exact fresh _ before (Option.some.inj recorded).symm
  · rintro _ ⟨⟩
    exact List.mem_append_right _ (List.mem_singleton.mpr rfl)
  · rintro _ ⟨⟩
  · intro x kicks
    have before := (inv.kicked x kicks).1
    refine ⟨grown before, ?_⟩
    rintro ⟨⟩
    exact absurd rfl (fresh _ before)

/-- A step, with what it reads taken out of `step`. -/
inductive Stepped (s : State) : Label → State → Prop
  | login {x : Sess} {t : State} : s.connect x none = some t → Stepped s (.login x) t
  | reconnect {x : Sess} {previous : SessionId} {t : State} :
      s.connect x (some previous) = some t → Stepped s (.reconnect x previous) t
  | giveUp {i : Nat} {h : Handler} : s.handlers[i]? = some h → Stepped s (.giveUp i) (s.setPhase i h .done)
  | fetch {i : Nat} {h : Handler} {t : State} :
      s.handlers[i]? = some h → s.fetch i h = some t → Stepped s (.fetch i) t
  | request {i : Nat} {h : Handler} {t : State} :
      s.handlers[i]? = some h → s.request i h = some t → Stepped s (.request i) t
  | receive {i : Nat} {h : Handler} {t : State} :
      s.handlers[i]? = some h → s.receive i h = some t → Stepped s (.receive i) t
  | install {i : Nat} {h : Handler} {t : State} :
      s.handlers[i]? = some h → s.install i h = some t → Stepped s (.install i) t
  | complete {i : Nat} {passes : Bool} {h : Handler} {t : State} :
      s.handlers[i]? = some h → s.complete i h passes = some t → Stepped s (.complete i passes) t
  | save {i : Nat} {ok : Bool} {h : Handler} {t : State} :
      s.handlers[i]? = some h → s.save i h ok = some t → Stepped s (.save i ok) t
  | replay {i : Nat} {ok : Bool} {h : Handler} {t : State} :
      s.handlers[i]? = some h → s.replay i h ok = some t → Stepped s (.replay i ok) t
  | close {x : Sess} : Stepped s (.close x) (s.spawn (.disconnect x))
  | logout {x : Sess} : Stepped s (.logout x) (s.spawn (.logout x))
  | deliverKick {k : Nat} {x : Sess} :
      s.kicks[k]? = some x →
      Stepped s (.deliverKick k) ({ s with kicks := s.kicks.eraseIdx k }.spawn (.kick x true))
  | task {i : Nat} {task : Task} {t : State} :
      s.tasks[i]? = some task → s.advance i task = some t → Stepped s (.task i) t
  | abort {i : Nat} {task : Task} {t : State} :
      s.tasks[i]? = some task → s.abort i task = some t → Stepped s (.abort i) t
  | prune {gate : GateId} {arc : Nat} {slot : Slot} :
      s.table gate = some arc → s.arcs[arc]? = some slot → slot.active = false →
      Stepped s (.prune gate) (s.setTable gate none)
  | start {k : Nat} {x : Sess} {reconnect : Bool} {t : State} :
      s.requests[k]? = some (x, reconnect) → s.start k x reconnect = some t → Stepped s (.start k) t
  | refuse {k : Nat} {x : Sess} {reconnect : Bool} :
      s.requests[k]? = some (x, reconnect) →
      Stepped s (.refuse k)
        { s with requests := s.requests.eraseIdx k, responses := s.responses ++ [(x, false)] }
  | answered {c : Command} {old : Sess} :
      s.busy = some c → c.old = some old → c.waits = true → old ∈ s.answers →
      Stepped s .answered { s with busy := some { c with waits := false }, answers := s.answers.erase old }
  | timeout {c : Command} :
      s.busy = some c → Stepped s .timeout { s with busy := some { c with waits := false } }
  | execute {c : Command} {t : State} : s.busy = some c → s.execute c = some t → Stepped s .execute t
  | owned {k : Nat} {x : Sess} :
      s.owners[k]? = some x →
      Stepped s (.owner k true)
        { s with owners := s.owners.eraseIdx k, responses := s.responses ++ [(x, true)] }
  | unowned {k : Nat} {x : Sess} :
      s.owners[k]? = some x →
      Stepped s (.owner k false) { s with owners := s.owners.eraseIdx k, undos := s.undos ++ [x] }
  | undo {k : Nat} {x : Sess} :
      s.undos[k]? = some x → s.busy = none →
      Stepped s (.undo k true)
        (forget { s with undos := s.undos.eraseIdx k, responses := s.responses ++ [(x, false)] } x)
  | undoRefused {k : Nat} {x : Sess} :
      s.undos[k]? = some x →
      Stepped s (.undo k false)
        { s with undos := s.undos.eraseIdx k, responses := s.responses ++ [(x, false)] }
  | notice {k : Nat} {x : Sess} :
      s.notices[k]? = some x → s.busy = none →
      Stepped s (.notice k true) (forget { s with notices := s.notices.eraseIdx k } x)
  | noticeLost {k : Nat} {x : Sess} :
      s.notices[k]? = some x →
      Stepped s (.notice k false) { s with notices := s.notices.eraseIdx k }
  | dropResponse {k : Nat} : Stepped s (.dropResponse k) { s with responses := s.responses.eraseIdx k }
  | dropAnswer {k : Nat} : Stepped s (.dropAnswer k) { s with answers := s.answers.eraseIdx k }

theorem stepped_of_step {l : Label} (taken : s.step l = some t) : Stepped s l t := by
  cases l with
  | login x => exact .login taken
  | reconnect x previous => exact .reconnect taken
  | giveUp i =>
    simp only [step, Option.bind_eq_some_iff, Option.ite_none_left_eq_some, Option.some.injEq] at taken
    obtain ⟨h, found, _, rfl⟩ := taken
    exact .giveUp found
  | fetch i =>
    obtain ⟨h, found, taken⟩ := Option.bind_eq_some_iff.mp taken
    exact .fetch found taken
  | request i =>
    obtain ⟨h, found, taken⟩ := Option.bind_eq_some_iff.mp taken
    exact .request found taken
  | receive i =>
    obtain ⟨h, found, taken⟩ := Option.bind_eq_some_iff.mp taken
    exact .receive found taken
  | install i =>
    obtain ⟨h, found, taken⟩ := Option.bind_eq_some_iff.mp taken
    exact .install found taken
  | complete i passes =>
    obtain ⟨h, found, taken⟩ := Option.bind_eq_some_iff.mp taken
    exact .complete found taken
  | save i ok =>
    obtain ⟨h, found, taken⟩ := Option.bind_eq_some_iff.mp taken
    exact .save found taken
  | replay i ok =>
    obtain ⟨h, found, taken⟩ := Option.bind_eq_some_iff.mp taken
    exact .replay found taken
  | close x =>
    obtain rfl := Option.some.inj taken
    exact .close
  | logout x =>
    obtain rfl := Option.some.inj taken
    exact .logout
  | deliverKick k =>
    obtain ⟨x, found, rfl⟩ := Option.map_eq_some_iff.mp taken
    exact .deliverKick found
  | task i =>
    obtain ⟨task, found, taken⟩ := Option.bind_eq_some_iff.mp taken
    exact .task found taken
  | abort i =>
    obtain ⟨task, found, taken⟩ := Option.bind_eq_some_iff.mp taken
    exact .abort found taken
  | prune gate =>
    simp only [step, Option.bind_eq_some_iff, Option.ite_none_left_eq_some, Option.some.injEq] at taken
    obtain ⟨slot, ⟨arc, mapped, behind⟩, inactive, rfl⟩ := taken
    exact .prune mapped behind (by simpa using inactive)
  | start k =>
    obtain ⟨⟨x, reconnect⟩, found, taken⟩ := Option.bind_eq_some_iff.mp taken
    exact .start found taken
  | refuse k =>
    obtain ⟨⟨x, reconnect⟩, found, rfl⟩ := Option.map_eq_some_iff.mp taken
    exact .refuse found
  | answered =>
    simp only [step, Option.bind_eq_some_iff, Option.ite_none_right_eq_some, Option.some.injEq] at taken
    obtain ⟨c, busy, old, isOld, ⟨waits, arrived⟩, rfl⟩ := taken
    exact .answered busy isOld waits arrived
  | timeout =>
    simp only [step, Option.bind_eq_some_iff, Option.ite_none_right_eq_some, Option.some.injEq] at taken
    obtain ⟨c, busy, _, rfl⟩ := taken
    exact .timeout busy
  | execute =>
    obtain ⟨c, busy, taken⟩ := Option.bind_eq_some_iff.mp taken
    exact .execute busy taken
  | owner k ok =>
    obtain ⟨x, found, rfl⟩ := Option.map_eq_some_iff.mp taken
    cases ok with
    | true => exact .owned found
    | false => exact .unowned found
  | undo k accepted =>
    obtain ⟨x, found, taken⟩ := Option.bind_eq_some_iff.mp taken
    cases accepted with
    | true =>
      simp only [if_true, Option.ite_none_right_eq_some, Option.some.injEq] at taken
      obtain ⟨idle, rfl⟩ := taken
      exact .undo found idle
    | false =>
      obtain rfl := Option.some.inj taken
      exact .undoRefused found
  | notice k accepted =>
    obtain ⟨x, found, taken⟩ := Option.bind_eq_some_iff.mp taken
    cases accepted with
    | true =>
      simp only [if_true, Option.ite_none_right_eq_some, Option.some.injEq] at taken
      obtain ⟨idle, rfl⟩ := taken
      exact .notice found idle
    | false =>
      obtain rfl := Option.some.inj taken
      exact .noticeLost found
  | dropResponse k =>
    simp only [step, Option.bind_eq_some_iff, Option.ite_none_left_eq_some, Option.some.injEq] at taken
    obtain ⟨_, _, _, rfl⟩ := taken
    exact .dropResponse
  | dropAnswer k =>
    simp only [step, Option.bind_eq_some_iff, Option.ite_none_left_eq_some, Option.some.injEq] at taken
    obtain ⟨_, _, _, rfl⟩ := taken
    exact .dropAnswer

/-- A new task that kicks nobody. -/
theorem Basic.spawn (inv : Basic s) {task : Task} (notKick : ∀ x remote, task ≠ .kick x remote)
    (notKickArc : ∀ x remote arc, task ≠ .kickArc x remote arc) : Basic (s.spawn task) := by
  refine inv.frame rfl rfl rfl rfl rfl rfl inv.responded (fun _ member => member) inv.slots ?_
  rintro y (kicks | kicks | ⟨arc, kicks⟩)
  · exact .inl kicks
  · cases List.mem_append.mp kicks with
    | inl before => exact .inr (.inl before)
    | inr new => exact absurd (List.mem_singleton.mp new).symm (notKick y true)
  · cases List.mem_append.mp kicks with
    | inl before => exact .inr (.inr ⟨arc, before⟩)
    | inr new => exact absurd (List.mem_singleton.mp new).symm (notKickArc y true arc)

theorem Basic.deliverKick (inv : Basic s) {k : Nat} {x : Sess} (found : s.kicks[k]? = some x) :
    Basic ({ s with kicks := s.kicks.eraseIdx k }.spawn (.kick x true)) := by
  refine inv.frame rfl rfl rfl rfl rfl rfl inv.responded (fun _ member => member) inv.slots ?_
  rintro y (kicks | kicks | ⟨arc, kicks⟩)
  · exact .inl (List.mem_of_mem_eraseIdx kicks)
  · cases List.mem_append.mp kicks with
    | inl before => exact .inr (.inl before)
    | inr new =>
      obtain ⟨rfl, _⟩ := Task.kick.inj (List.mem_singleton.mp new)
      exact .inl (List.mem_of_getElem? found)
  · exact .inr (.inr ⟨arc, by simpa [State.spawn] using kicks⟩)

theorem Basic.abort (inv : Basic s) {i : Nat} {task : Task} (taken : s.abort i task = some t) :
    Basic t := by
  have same : t = s.setTask i .done := by
    unfold State.abort at taken
    split at taken <;> first | exact (Option.some.inj taken).symm | cases taken
  rw [same]
  refine inv.frame rfl rfl rfl rfl rfl rfl inv.responded (fun _ member => member) inv.slots ?_
  rintro y (kicks | kicks | ⟨arc, kicks⟩)
  · exact .inl kicks
  · cases List.mem_or_eq_of_mem_set kicks with
    | inl before => exact .inr (.inl before)
    | inr same => cases same
  · cases List.mem_or_eq_of_mem_set kicks with
    | inl before => exact .inr (.inr ⟨arc, before⟩)
    | inr same => cases same

/-- Logic answers: an acceptance is only for a session that was executed. -/
theorem Basic.respond (inv : Basic s) {x : Sess} {ok : Bool} (executed : ok = true → x ∈ s.executed) :
    Basic { s with responses := s.responses ++ [(x, ok)] } := by
  refine { inv with responded := ?_ }
  intro y member
  cases List.mem_append.mp member with
  | inl before => exact inv.responded y before
  | inr new =>
    obtain ⟨rfl, accepted⟩ := Prod.mk.inj (List.mem_singleton.mp new)
    exact executed accepted.symm

/-- The `set_logic_owner` of an executed login is over. -/
theorem Basic.ownerSet (inv : Basic s) (k : Nat) : Basic { s with owners := s.owners.eraseIdx k } := by
  refine { inv with owned := ?_ }
  intro x member
  exact inv.owned x (List.mem_of_mem_eraseIdx member)

theorem basic_step {l : Label} (inv : Basic s) (taken : s.step l = some t) : Basic t := by
  cases stepped_of_step taken with
  | login taken => exact inv.connect taken
  | reconnect taken => exact inv.connect taken
  | giveUp found => exact inv.finish found
  | fetch found taken => exact inv.fetch found taken
  | request found taken => exact inv.request found taken
  | receive found taken => exact inv.receive found taken
  | install found taken => exact inv.install found taken
  | complete found taken => exact inv.complete found taken
  | save found taken => exact inv.save found taken
  | replay found taken => exact inv.replay found taken
  | close => exact inv.spawn (by simp) (by simp)
  | logout => exact inv.spawn (by simp) (by simp)
  | deliverKick found => exact inv.deliverKick found
  | task found taken => exact inv.task found taken
  | abort found taken => exact inv.abort taken
  | prune => exact { inv with }
  | start found taken => exact inv.start found taken
  | refuse found => exact inv.refuse found
  | answered busy => exact inv.proceed busy _
  | timeout busy => exact inv.proceed busy s.answers
  | execute busy taken => exact inv.execute busy taken
  | @owned k x found =>
    exact (inv.ownerSet k).respond (fun _ => inv.owned x (List.mem_of_getElem? found))
  | @unowned k x found => exact { inv.ownerSet k with }
  | @undo k x found idle =>
    have answered : Basic { s with responses := s.responses ++ [(x, false)] } := inv.respond (by simp)
    have removed : Basic { s with undos := s.undos.eraseIdx k, responses := s.responses ++ [(x, false)] } :=
      { answered with }
    exact removed.forget idle x
  | @undoRefused k x found =>
    have answered : Basic { s with responses := s.responses ++ [(x, false)] } := inv.respond (by simp)
    exact { answered with }
  | @notice k x found idle =>
    have removed : Basic { s with notices := s.notices.eraseIdx k } := { inv with }
    exact removed.forget idle x
  | noticeLost => exact { inv with }
  | dropResponse =>
    refine { inv with responded := ?_ }
    intro y member
    exact inv.responded y (List.mem_of_mem_eraseIdx member)
  | dropAnswer => exact { inv with }

theorem basic_reach {C : State → Label → Prop} (reached : system.Reach C s) : Basic s := by
  refine reached.inv ?_ ?_
  · rintro _ rfl
    exact basic_initial
  · intro s l t inv _ taken
    exact basic_step inv taken

end State

end Xkk.Cluster
