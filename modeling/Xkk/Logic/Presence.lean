import Xkk.Lib.Books
import Xkk.Lib.Transition
import Xkk.Logic.PlayerState

/-! # The online counter of Logic

The login and disconnect handlers change the session of a player in its execution
domain and `online_count` afterwards, when `await_logic` has returned.  The runner
of a player executes a call and saves the player, if it is dirty, before it
answers; a failed save turns the answer into an error, and the handler then leaves
the counter alone.

Other calls change items and the dirty flag.  Players are not evicted.
-/

namespace Xkk.Logic

open Xkk.Lib Xkk.Protocol

/-- A call of another handler: it does not touch the session. -/
structure ItemCall where
  run : PlayerState → PlayerState
  keeps : ∀ p, (run p).session = p.session

theorem PlayerState.addItems_session (hash : HashOrder) (p : PlayerState) (items : List Item) :
    (p.addItems hash items).2.session = p.session := by
  simp only [addItems]
  split
  · split <;> rfl
  · rfl

def ItemCall.addItems (hash : HashOrder) (items : List Item) : ItemCall :=
  ⟨fun p => (p.addItems hash items).2, fun p => p.addItems_session hash items⟩

namespace Presence

inductive Kind where
  | login
  | disconnect
deriving DecidableEq, Repr

/-- Where a handler stands.  A call carries its result, `became_online` or whether
    the session matched, from its execution on. -/
inductive Phase where
  | queued (kind : Kind)
  | saving (kind : Kind) (value : Bool)
  | answered (kind : Kind) (outcome : Outcome Bool PlayerError)
  | owner                               -- the login awaits `set_logic_owner`
  | done

structure Handler where
  gid : Gid
  gateId : Int
  sessionId : Int
  phase : Phase

structure State where
  players : Table.Map Gid PlayerState
  onlineCount : Int
  handlers : List Handler
  hidden : Bool                         -- some decrement was swallowed by the clamp at zero

def new : State := ⟨∅, 0, [], false⟩

/-- Runs a call on the state of the player. -/
def Kind.execute (kind : Kind) (gateId sessionId : Int) (p : PlayerState) : Bool × PlayerState :=
  match kind with
  | .login => p.login gateId sessionId
  | .disconnect => p.disconnect gateId sessionId

def State.set (s : State) (i : Nat) (h : Handler) (phase : Phase) : State :=
  { s with handlers := s.handlers.set i { h with phase := phase } }

/-- The resident player, or one that the loader has just read. -/
def State.player (s : State) (gid : Gid) (loaded : Items) : PlayerState :=
  (s.players.lookup gid).getD ⟨loaded, none, false⟩

/-- The runner of the player is saving it for a call. -/
def State.busy (s : State) (gid : Gid) : Bool :=
  s.handlers.any fun h => h.gid = gid && match h.phase with
    | .saving .. => true
    | _ => false

/-- The runner takes the call of a handler.  The preload of a login reads the
    session and awaits the kick of the old one; nothing else runs for the player
    in between. -/
def State.execute (s : State) (i : Nat) (h : Handler) (kind : Kind) (loaded : Items) : State :=
  let (value, p) := kind.execute h.gateId h.sessionId (s.player h.gid loaded)
  let s := { s with players := s.players.insert h.gid p }
  s.set i h (if p.dirty then .saving kind value else .answered kind (.completed value (.ok ())))

/-- `save_one` for the call of a handler. -/
def State.save (s : State) (i : Nat) (h : Handler) (kind : Kind) (value : Bool)
    (result : Except PlayerError Unit) : State :=
  let s := s.set i h (.answered kind (.completed value result))
  match s.players.lookup h.gid, result with
  | some p, .ok _ => { s with players := s.players.insert h.gid { p with dirty := false } }
  | _, _ => s

def State.decrementOnline (s : State) : State :=
  { s with onlineCount := max (s.onlineCount - 1) 0, hidden := s.hidden || s.onlineCount ≤ 0 }

/-- The handler goes on with what `await_logic` returns. -/
def State.resume (s : State) (i : Nat) (h : Handler) (kind : Kind) (outcome : Outcome Bool PlayerError) : State :=
  match kind, awaitLogic (.ok outcome) with
  | .login, .error _ => s.set i h .done
  | .login, .ok becameOnline =>
    (if becameOnline then { s with onlineCount := s.onlineCount + 1 } else s).set i h .owner
  | .disconnect, .error _ => s.set i h .done
  | .disconnect, .ok isCurrent => (if isCurrent then s.decrementOnline else s).set i h .done

inductive Label where
  | login (gid : Gid) (gateId sessionId : Int)
  | disconnect (gid : Gid) (gateId sessionId : Int)
  | execute (i : Nat) (loaded : Items)
  | fail (i : Nat) (error : LogicCallError PlayerError)      -- the call is not executed
  | save (i : Nat) (result : Except PlayerError Unit)
  | resume (i : Nat)
  | saveOwner (i : Nat) (saved accepted : Bool)              -- `accepted`: the rollback got into the mailbox
  | items (gid : Gid) (call : ItemCall) (loaded : Items)
  | savePlayer (gid : Gid)                                   -- any other save of the player that succeeds

def step (s : State) : Label → Option State
  | .login gid gateId sessionId =>
    some { s with handlers := s.handlers ++ [⟨gid, gateId, sessionId, .queued .login⟩] }
  | .disconnect gid gateId sessionId =>
    some { s with handlers := s.handlers ++ [⟨gid, gateId, sessionId, .queued .disconnect⟩] }
  | .execute i loaded =>
    s.handlers[i]?.bind fun h => match h.phase with
      | .queued kind => if s.busy h.gid then none else some (s.execute i h kind loaded)
      | _ => none
  | .fail i error =>
    s.handlers[i]?.bind fun h => match h.phase with
      | .queued kind => some (s.set i h (.answered kind (.failed error)))
      | _ => none
  | .save i result =>
    s.handlers[i]?.bind fun h => match h.phase with
      | .saving kind value => some (s.save i h kind value result)
      | _ => none
  | .resume i =>
    s.handlers[i]?.bind fun h => match h.phase with
      | .answered kind outcome => some (s.resume i h kind outcome)
      | _ => none
  | .saveOwner i saved accepted =>
    s.handlers[i]?.bind fun h => match h.phase with
      | .owner => some (s.set i h (if saved || !accepted then .done else .queued .disconnect))
      | _ => none
  | .items gid call loaded =>
    if s.busy gid then none
    else some { s with players := s.players.insert gid (call.run (s.player gid loaded)) }
  | .savePlayer gid =>
    if s.busy gid then none
    else (s.players.lookup gid).map fun p => { s with players := s.players.insert gid { p with dirty := false } }

def system : System State Label := .ofFun (· = new) step

/-! ## Counter and sessions -/

def Phase.isDone : Phase → Bool
  | .done => true
  | _ => false

/-- The resident players that are in a session. -/
def State.online (s : State) : Multiset Gid :=
  Table.total (fun gid p => if p.session.isSome then {gid} else 0) s.players

/-- With no handler in progress the counter is the number of players in session, and
    no decrement was swallowed. -/
def State.Agrees (s : State) : Prop :=
  ((∀ h ∈ s.handlers, h.phase.isDone = true) → s.onlineCount = s.online.card) ∧ s.hidden = false

instance (s : State) : Decidable s.Agrees :=
  inferInstanceAs (Decidable (((∀ h ∈ s.handlers, _ = true) → _ = _) ∧ _ = _))

/-- The call that has put the player in or out of session, when the counter has
    still to follow. -/
def Phase.owes : Phase → Option Kind
  | .saving kind true | .answered kind (.completed true (.ok _)) => some kind
  | _ => none

/-- The save for a call that moved the player in or out of session succeeds, and no
    handler decrements while another one owes the increment for the same player. -/
def State.Faithful (s : State) : Label → Prop
  | .save i result => ∀ h ∈ s.handlers[i]?, h.phase.owes.isSome = true → result.isOk = true
  | .resume i => ∀ h ∈ s.handlers[i]?, h.phase.owes = some .disconnect →
    ∀ other ∈ s.handlers, other.gid = h.gid → other.phase.owes ≠ some .login
  | _ => True

instance (s : State) (l : Label) : Decidable (s.Faithful l) :=
  match l with
  | .save i _ => inferInstanceAs (Decidable (∀ h ∈ s.handlers[i]?, _ = true → _ = true))
  | .resume i => inferInstanceAs (Decidable (∀ h ∈ s.handlers[i]?, _ = _ → ∀ other ∈ s.handlers, _ = _ → _ ≠ _))
  | .login .. | .disconnect .. | .execute .. | .fail .. | .saveOwner .. | .items .. | .savePlayer _ => .isTrue trivial

/-! ## The books stay balanced -/

def Handler.up (h : Handler) : Multiset Gid := if h.phase.owes = some .login then {h.gid} else 0

def Handler.down (h : Handler) : Multiset Gid := if h.phase.owes = some .disconnect then {h.gid} else 0

structure Balanced (s : State) : Prop where
  books : Books.Balanced Handler.up Handler.down s.handlers s.online s.onlineCount
  hidden : s.hidden = false

variable {s t : State} {i : Nat} {h : Handler}

/-- A handler that owes as much as before and did nothing to the sessions. -/
theorem Balanced.set (balanced : Balanced s) (found : s.handlers[i]? = some h) {phase : Phase}
    (same : phase.owes = h.phase.owes) : Balanced (s.set i h phase) where
  books := by
    apply balanced.books.move found
    simp only [Handler.up, Handler.down, same]
    rfl
  hidden := balanced.hidden

theorem Balanced.spawn (balanced : Balanced s) (gid : Gid) (gateId sessionId : Int) (kind : Kind) :
    Balanced { s with handlers := s.handlers ++ [⟨gid, gateId, sessionId, .queued kind⟩] } where
  books := by
    apply balanced.books.spawn
    simp [Handler.up, Handler.down, Phase.owes, State.online]
  hidden := balanced.hidden

/-- Replacing a player exchanges its share. -/
theorem online_insert (s : State) (gid : Gid) (loaded : Items) (p : PlayerState) :
    ({ s with players := s.players.insert gid p } : State).online
        + (if (s.player gid loaded).session.isSome then {gid} else 0) =
      s.online + (if p.session.isSome then {gid} else 0) := by
  have inserted := Table.total_insert
    (fun gid (p : PlayerState) => if p.session.isSome then {gid} else (0 : Multiset Gid))
    s.players gid p
  simp only [State.online, inserted]
  cases resident : s.players.lookup gid with
  | none =>
    rw [Table.erase_of_none resident]
    simp [State.player, resident, add_comm]
  | some old =>
    have erased := Table.total_erase
      (fun gid (p : PlayerState) => if p.session.isSome then {gid} else (0 : Multiset Gid)) resident
    rw [erased]
    simp only [State.player, resident, Option.getD_some]
    abel

theorem online_insert_same (s : State) (gid : Gid) (loaded : Items) {p : PlayerState}
    (same : p.session = (s.player gid loaded).session) :
    ({ s with players := s.players.insert gid p } : State).online = s.online := by
  have exchanged := online_insert s gid loaded p
  rw [same] at exchanged
  exact add_right_cancel exchanged

/-- A call that changes no session. -/
theorem Balanced.keep (balanced : Balanced s) (gid : Gid) (loaded : Items) {p : PlayerState}
    (same : p.session = (s.player gid loaded).session) :
    Balanced { s with players := s.players.insert gid p } where
  books := by
    have unchanged := online_insert_same s gid loaded same
    rw [unchanged]
    exact balanced.books
  hidden := balanced.hidden

/-- A resident player is saved. -/
theorem Balanced.clean (balanced : Balanced s) {gid : Gid} {p : PlayerState}
    (resident : s.players.lookup gid = some p) :
    Balanced { s with players := s.players.insert gid { p with dirty := false } } := by
  apply balanced.keep gid ∅
  simp [State.player, resident]

/-- A login puts the player in session, and owes the increment if it was in none. -/
theorem online_login (s : State) (gid : Gid) (loaded : Items) (gateId sessionId : Int) :
    ({ s with players := s.players.insert gid ((s.player gid loaded).login gateId sessionId).2 } : State).online =
      s.online + (if ((s.player gid loaded).login gateId sessionId).1 then {gid} else 0) := by
  have exchanged := online_insert s gid loaded ((s.player gid loaded).login gateId sessionId).2
  cases session : (s.player gid loaded).session with
  | none => simpa [PlayerState.login, session] using exchanged
  | some current =>
    -- the player was in session before and is so after
    apply add_right_cancel (b := ({gid} : Multiset Gid))
    simpa [PlayerState.login, session] using exchanged

/-- A disconnect that matches takes the player out of session, and owes the
    decrement. -/
theorem online_disconnect (s : State) (gid : Gid) (loaded : Items) (gateId sessionId : Int) :
    ({ s with players := s.players.insert gid ((s.player gid loaded).disconnect gateId sessionId).2 } : State).online
        + (if ((s.player gid loaded).disconnect gateId sessionId).1 then {gid} else 0) = s.online := by
  cases isCurrent : ((s.player gid loaded).disconnect gateId sessionId).1 with
  | false =>
    have unchanged : ((s.player gid loaded).disconnect gateId sessionId).2 = s.player gid loaded := by
      simp only [PlayerState.disconnect] at isCurrent ⊢
      rw [isCurrent]
      rfl
    -- another session is current: the call changes nothing
    rw [unchanged, online_insert_same s gid loaded rfl]
    simp
  | true =>
    have exchanged := online_insert s gid loaded ((s.player gid loaded).disconnect gateId sessionId).2
    have wasIn : (s.player gid loaded).session.isSome = true := by
      simp only [PlayerState.disconnect] at isCurrent
      cases session : (s.player gid loaded).session with
      | none => simp [session] at isCurrent
      | some current => rfl
    have isOut : ((s.player gid loaded).disconnect gateId sessionId).2.session = none := by
      simp only [PlayerState.disconnect] at isCurrent ⊢
      rw [isCurrent]
      rfl
    simpa [wasIn, isOut] using exchanged

/-- After its execution a call owes what its result says, saved or not. -/
theorem owes_executed (kind : Kind) (value dirty : Bool) :
    Phase.owes (if dirty then .saving kind value else .answered kind (.completed value (.ok ()))) =
      if value then some kind else none := by
  cases dirty <;> cases value <;> rfl

theorem Balanced.execute (balanced : Balanced s) (found : s.handlers[i]? = some h) {kind : Kind}
    (queued : h.phase = .queued kind) (loaded : Items) : Balanced (s.execute i h kind loaded) where
  books := by
    have up : h.up = 0 := by simp [Handler.up, queued, Phase.owes]
    have down : h.down = 0 := by simp [Handler.down, queued, Phase.owes]
    have after : (s.execute i h kind loaded).online =
        ({ s with players := s.players.insert h.gid (kind.execute h.gateId h.sessionId (s.player h.gid loaded)).2 }
          : State).online := rfl
    apply balanced.books.move found
    rw [up, down, after]
    simp only [Handler.up, Handler.down, owes_executed]
    cases kind with
    | login =>
      simp only [Kind.execute]
      rw [online_login]
      cases became : ((s.player h.gid loaded).login h.gateId h.sessionId).1 with
      | true => simp [add_comm]
      | false => simp
    | disconnect =>
      simp only [Kind.execute]
      rw [← online_disconnect s h.gid loaded h.gateId h.sessionId]
      cases isCurrent : ((s.player h.gid loaded).disconnect h.gateId h.sessionId).1 with
      | true => simp [add_comm]
      | false => simp
  hidden := balanced.hidden

/-- A save that succeeds keeps what the call owes. -/
theorem Balanced.save (balanced : Balanced s) (found : s.handlers[i]? = some h) {kind : Kind} {value : Bool}
    (saving : h.phase = .saving kind value) {result : Except PlayerError Unit}
    (saved : h.phase.owes.isSome = true → result.isOk = true) : Balanced (s.save i h kind value result) := by
  have owes : Phase.owes (.answered kind (.completed value result)) = h.phase.owes := by
    rw [saving] at saved ⊢
    cases value with
    | false => rfl
    | true =>
      cases result with
      | ok done => rfl
      | error error => cases saved rfl
  have moved := balanced.set found owes
  simp only [State.save]
  split
  · rename_i resident
    exact moved.clean resident
  · exact moved

theorem Balanced.resume (balanced : Balanced s) (found : s.handlers[i]? = some h) {kind : Kind}
    {outcome : Outcome Bool PlayerError} (answered : h.phase = .answered kind outcome)
    (alone : h.phase.owes = some .disconnect →
      ∀ other ∈ s.handlers, other.gid = h.gid → other.phase.owes ≠ some .login) :
    Balanced (s.resume i h kind outcome) := by
  -- an error, or a result of false, owes nothing
  have quiet : ∀ phase, phase.owes = none → h.phase.owes = none → Balanced (s.set i h phase) := by
    intro phase isNone wasNone
    exact balanced.set found (isNone.trans wasNone.symm)
  cases outcome with
  | failed error =>
    have wasNone : h.phase.owes = none := by rw [answered]; rfl
    cases kind with
    | login => exact quiet .done rfl wasNone
    | disconnect => exact quiet .done rfl wasNone
  | completed value persistence =>
    cases persistence with
    | error error =>
      have wasNone : h.phase.owes = none := by
        rw [answered]
        cases value <;> rfl
      cases kind with
      | login => exact quiet .done rfl wasNone
      | disconnect => exact quiet .done rfl wasNone
    | ok saved =>
      cases value with
      | false =>
        have wasNone : h.phase.owes = none := by rw [answered]; rfl
        cases kind with
        | login => exact quiet .owner rfl wasNone
        | disconnect => exact quiet .done rfl wasNone
      | true =>
        have owes : h.phase.owes = some kind := by rw [answered]; rfl
        cases kind with
        | login =>
          have isUp : h.up = {h.gid} := by simp [Handler.up, owes]
          have isDown : h.down = 0 := by simp [Handler.down, owes]
          exact ⟨balanced.books.increment found isUp rfl isDown.symm, balanced.hidden⟩
        | disconnect =>
          -- no increment for this player is owed, so the player is counted and the clamp does nothing
          have absent : ∀ other ∈ s.handlers, h.gid ∉ other.up := by
            intro other isHandler member
            by_cases isLogin : other.phase.owes = some .login
            · simp only [Handler.up, isLogin, if_true, Multiset.mem_singleton] at member
              exact alone owes other isHandler member.symm isLogin
            · simp [Handler.up, isLogin] at member
          have isUp : h.up = 0 := by simp [Handler.up, owes]
          have isDown : h.down = {h.gid} := by simp [Handler.down, owes]
          have paid : Handler.down { h with phase := .done } = 0 := rfl
          obtain ⟨positive, books⟩ := balanced.books.decrement found isDown paid isUp.symm absent
          have exact : max (s.onlineCount - 1) 0 = s.onlineCount - 1 := by omega
          constructor
          · change Books.Balanced _ _ _ _ (max (s.onlineCount - 1) 0)
            rw [exact]
            exact books
          · change (s.hidden || decide (s.onlineCount ≤ 0)) = false
            rw [balanced.hidden, Bool.false_or, decide_eq_false_iff_not]
            omega

theorem balanced_step (balanced : Balanced s) {l : Label} (faithful : s.Faithful l) (taken : step s l = some t) :
    Balanced t := by
  cases l with
  | login gid gateId sessionId =>
    obtain rfl := Option.some.inj taken
    exact balanced.spawn gid gateId sessionId .login
  | disconnect gid gateId sessionId =>
    obtain rfl := Option.some.inj taken
    exact balanced.spawn gid gateId sessionId .disconnect
  | execute i loaded =>
    simp only [step, Option.bind_eq_some_iff] at taken
    obtain ⟨h, found, taken⟩ := taken
    split at taken
    · next kind phase =>
      rw [Option.ite_none_left_eq_some] at taken
      obtain rfl := Option.some.inj taken.2
      exact balanced.execute found phase loaded
    · cases taken
  | fail i error =>
    simp only [step, Option.bind_eq_some_iff] at taken
    obtain ⟨h, found, taken⟩ := taken
    split at taken
    · next kind phase =>
      obtain rfl := Option.some.inj taken
      apply balanced.set found
      rw [phase]
      rfl
    · cases taken
  | save i result =>
    simp only [step, Option.bind_eq_some_iff] at taken
    obtain ⟨h, found, taken⟩ := taken
    split at taken
    · next kind value phase =>
      obtain rfl := Option.some.inj taken
      exact balanced.save found phase (faithful h found)
    · cases taken
  | resume i =>
    simp only [step, Option.bind_eq_some_iff] at taken
    obtain ⟨h, found, taken⟩ := taken
    split at taken
    · next kind outcome phase =>
      obtain rfl := Option.some.inj taken
      exact balanced.resume found phase (faithful h found)
    · cases taken
  | saveOwner i saved accepted =>
    simp only [step, Option.bind_eq_some_iff] at taken
    obtain ⟨h, found, taken⟩ := taken
    split at taken
    · next phase =>
      -- the rollback queues a disconnect, which owes nothing before it is executed
      obtain rfl := Option.some.inj taken
      apply balanced.set found
      rw [phase]
      split <;> rfl
    · cases taken
  | items gid call loaded =>
    simp only [step, Option.ite_none_left_eq_some] at taken
    obtain rfl := Option.some.inj taken.2
    exact balanced.keep gid loaded (call.keeps _)
  | savePlayer gid =>
    simp only [step, Option.ite_none_left_eq_some, Option.map_eq_some_iff] at taken
    obtain ⟨_, p, resident, rfl⟩ := taken
    exact balanced.clean resident

/-- As long as the saves behind changes of the session succeed and no decrement
    overtakes its increment, the counter agrees with the sessions. -/
theorem presence_agrees {s : State} (reached : system.Reach State.Faithful s) : s.Agrees := by
  have balanced : Balanced s := by
    apply reached.inv
    · rintro _ rfl
      exact ⟨.empty, rfl⟩
    · intro s l t balanced faithful taken
      exact balanced_step balanced faithful taken
  refine ⟨?_, balanced.hidden⟩
  intro settled
  apply balanced.books.settled
  intro h isHandler
  have done := settled h isHandler
  cases phase : h.phase with
  | done => simp [Handler.up, Handler.down, phase, Phase.owes]
  | queued kind => simp [phase, Phase.isDone] at done
  | saving kind value => simp [phase, Phase.isDone] at done
  | answered kind outcome => simp [phase, Phase.isDone] at done
  | owner => simp [phase, Phase.isDone] at done

/-- A player logs in and is sent a gift; another login is rolled back, because the
    owner could not be stored. -/
def rolledBack : List Label :=
  [.login 1 1 7, .execute 0 ∅, .resume 0, .saveOwner 0 true true,
    .items 1 (.addItems .inserted [⟨5, 1, 0⟩]) ∅, .savePlayer 1,
    .login 2 1 8, .execute 1 ∅, .resume 1, .saveOwner 1 false true, .execute 1 ∅, .resume 1]

theorem rolledBack_agrees :
    ∃ s : State, (∀ h ∈ s.handlers, h.phase.isDone = true) ∧ s.onlineCount = 1 ∧ s.Agrees := by
  have run : ∃ s, System.follow State.Faithful step new rolledBack = some s
      ∧ (∀ h ∈ s.handlers, h.phase.isDone = true) ∧ s.onlineCount = 1 := by
    decide +kernel
  obtain ⟨s, followed, settled, count⟩ := run
  have reached : system.Reach State.Faithful s := System.reach_of_follow rfl followed
  exact ⟨s, settled, count, presence_agrees reached⟩

/-- The player is dirty from a gift that could not be saved; the login is executed,
    its save fails as well, and the handler reports an error. -/
def loginUnsaved : List Label :=
  [.items 1 (.addItems .inserted [⟨5, 1, 0⟩]) ∅, .login 1 1 7, .execute 0 ∅, .save 0 (.error "store unavailable"),
    .resume 0]

theorem online_not_counted : ¬ ∀ s : State, system.Reach System.Any s → s.Agrees := by
  intro agrees
  have run : ∃ s, System.follow System.Any step new loginUnsaved = some s ∧ ¬ s.Agrees := by
    decide +kernel
  obtain ⟨s, followed, wrong⟩ := run
  exact wrong (agrees s (System.reach_of_follow rfl followed))

end Presence

end Xkk.Logic
