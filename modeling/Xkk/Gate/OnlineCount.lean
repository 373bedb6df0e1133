import Xkk.Gate.Session
import Xkk.Lib.Books
import Xkk.Lib.Table
import Xkk.Lib.Transition

/-! # The session table and the online counter of a Gate

`ClientSessions` maps a player to a shared, separately locked session.  An
operation first clones the `Arc` out of the map and locks the session later, so
it may act on a session that the map no longer holds.  `online_count` is an
atomic of its own that the handlers update after their table step.

The counter is meant to be the number of active entries.  The books below are
kept by player: outstanding increments and counted players on one side, active
entries and outstanding decrements on the other.  `Faithful` says which table
steps keep them balanced.
-/

namespace Xkk.Gate

open Xkk.Lib

abbrev Gid := Int

/-! ## The table -/

structure ClientSessions (B : Type) where
  arcs : List (ClientSession B)      -- every session ever created; an `Arc` is a position
  players : Table.Map Gid Nat

namespace ClientSessions

variable {M B : Type}

def new : ClientSessions B := ⟨[], ∅⟩

def get (s : ClientSessions B) (gid : Gid) : Option Nat := s.players.lookup gid

/-- The session behind an `Arc` is active. -/
def activeArc (s : ClientSessions B) (arc : Nat) : Bool := s.arcs[arc]?.any ClientSession.active

/-- The share of one entry in `activePlayers`. -/
def share (gid : Gid) (active : Bool) : Multiset Gid := if active then {gid} else 0

/-- The players whose entry is active. -/
def activePlayers (s : ClientSessions B) : Multiset Gid :=
  Table.total (fun gid arc => share gid (s.activeArc arc)) s.players

def installLogin (s : ClientSessions B) (gid : Gid) (conn : Connection) (routes : Routes)
    (clientSeq : UInt32) : Bool × ClientSessions B :=
  let previousActive := (s.get gid).any s.activeArc
  (!previousActive,
    { arcs := s.arcs ++ [.new conn routes clientSeq]
      players := s.players.insert gid s.arcs.length })

/-- Replace the session behind an `Arc`; the map is not involved. -/
def store (s : ClientSessions B) (arc : Nat) (session : ClientSession B) : ClientSessions B :=
  { s with arcs := s.arcs.set arc session }

/-- The second section of `kick`. -/
def removeKicked (s : ClientSessions B) (gid : Gid) (arc : Nat) : ClientSessions B :=
  if s.get gid = some arc then { s with players := s.players.erase gid } else s

def invalidate (s : ClientSessions B) (gid : Gid) (sessionId : SessionId) :
    Bool × ClientSessions B :=
  match s.get gid with
  | none => (false, s)
  | some arc =>
    if s.arcs[arc]?.any (·.sessionId = sessionId) then
      (true, { s with players := s.players.erase gid })
    else (false, s)

def pruneExpired (s : ClientSessions B) (now : Nat) (config : SessionConfig) : ClientSessions B :=
  { s with
    players := Table.retain
      (fun _ arc => s.arcs[arc]?.any fun session =>
        session.active || session.disconnectedAt.any fun at_ => now - at_ ≤ config.resumeTtl)
      s.players }

end ClientSessions

/-- The first section of `kick`, under the session lock: the connection is taken
    out and gets a last message. -/
def ClientSession.kick {M B : Type} (wire : Wire M B) (s : ClientSession B)
    (sessionId : SessionId) (message : M) (now : Nat) (config : SessionConfig) :
    Option Bool × ClientSession B :=
  if s.sessionId ≠ sessionId then (none, s)
  else
    let taken := { s with conn := none }
    if s.conn.isSome then (some true, (taken.encode wire .kickNtf message now config).2)
    else (some false, taken)

/-! ## The handlers -/

/-- Where a handler stands.  The first four hold an `Arc` that they are about to
    lock. -/
inductive Task where
  | reconnect (gid : Gid) (arc : Nat) (previous : SessionId) (conn : Connection) (seq ack : UInt32)
  | disconnect (gid : Gid) (arc : Nat) (sessionId : SessionId)
  | kick (gid : Gid) (arc : Nat) (sessionId : SessionId)
  | logout (gid : Gid) (arc : Nat) (sessionId : SessionId) (seq ack : UInt32)
  | kicked (gid : Gid) (arc : Nat) (wasActive : Bool)     -- before the second section of `kick`
  | invalidate (gid : Gid) (sessionId : SessionId)         -- `accept_request` let the logout pass
  | increment (gid : Gid)
  | decrement (gid : Gid)
  | done
deriving DecidableEq, Repr

/-- The increment that the handler has still to make. -/
def Task.owesIncrement : Task → Multiset Gid
  | .increment gid => {gid}
  | _ => 0

/-- The decrement that the handler has still to make. -/
def Task.owesDecrement : Task → Multiset Gid
  | .decrement gid | .kicked gid _ true => {gid}
  | _ => 0

structure Gateway (B : Type) where
  sessions : ClientSessions B
  onlineCount : Int
  tasks : List Task
  hidden : Bool      -- some decrement was swallowed by the clamp at zero

namespace Gateway

variable {M B : Type}

def new : Gateway B := ⟨.new, 0, [], false⟩

inductive Label (M : Type) where
  | login (gid : Gid) (conn : Connection) (routes : Routes) (clientSeq : UInt32)
  | reconnect (gid : Gid) (previous : SessionId) (conn : Connection) (seq ack : UInt32)
  | disconnect (gid : Gid) (sessionId : SessionId)
  | kick (gid : Gid) (sessionId : SessionId)
  | logout (gid : Gid) (sessionId : SessionId) (seq ack : UInt32)
  | pruneExpired (now : Nat)
  | tick (i : Nat) (message : M) (now : Nat)

def spawn (s : Gateway B) (task : Task) : Gateway B := { s with tasks := s.tasks ++ [task] }

def decrementOnline (s : Gateway B) : Gateway B :=
  { s with onlineCount := max (s.onlineCount - 1) 0, hidden := s.hidden || s.onlineCount ≤ 0 }

/-- A handler clones the `Arc` of its player, if there is one. -/
def fetch (s : Gateway B) (gid : Gid) (task : Nat → Task) : Option (Gateway B) :=
  (s.sessions.get gid).map fun arc => s.spawn (task arc)

/-- `handle_login` from `install_login` on; the increment is still to come. -/
def login (s : Gateway B) (gid : Gid) (conn : Connection) (routes : Routes) (clientSeq : UInt32) :
    Gateway B :=
  let installed := s.sessions.installLogin gid conn routes clientSeq
  let s := { s with sessions := installed.2 }
  if installed.1 then s.spawn (.increment gid) else s

/-- The step of a handler: what it does to the table and to the counter, and
    where it stands next. -/
def advance (wire : Wire M B) (config : SessionConfig) (s : Gateway B) (message : M) (now : Nat) :
    Task → Option (Gateway B × Task)
  | .reconnect gid arc previous conn seq ack =>
    s.sessions.arcs[arc]?.map fun session =>
      let (result, session) := session.completeReconnect previous conn seq ack now config
      let s := { s with sessions := s.sessions.store arc session }
      match result with
      | .ok resumed => (s, if resumed.becameActive then .increment gid else .done)
      | .error _ => (s, .done)
  | .disconnect gid arc sessionId =>
    s.sessions.arcs[arc]?.map fun session =>
      let (result, session) := session.disconnect sessionId now
      let s := { s with sessions := s.sessions.store arc session }
      (s, if result.isSome then .decrement gid else .done)
  | .kick gid arc sessionId =>
    s.sessions.arcs[arc]?.map fun session =>
      let (result, session) := session.kick wire sessionId message now config
      let s := { s with sessions := s.sessions.store arc session }
      match result with
      | none => (s, .done)
      | some wasActive => (s, .kicked gid arc wasActive)
  | .logout gid arc sessionId seq ack =>
    s.sessions.arcs[arc]?.map fun session =>
      let (result, session) := session.acceptRequest sessionId seq ack now config
      let s := { s with sessions := s.sessions.store arc session }
      match result with
      | .ok _ => (s, .invalidate gid sessionId)
      | .error _ => (s, .done)
  | .kicked gid arc wasActive =>
    some ({ s with sessions := s.sessions.removeKicked gid arc },
      if wasActive then .decrement gid else .done)
  | .invalidate gid sessionId =>
    -- the result of `invalidate` is not looked at
    some ({ s with sessions := (s.sessions.invalidate gid sessionId).2 }, .decrement gid)
  | .increment _ => some ({ s with onlineCount := s.onlineCount + 1 }, .done)
  | .decrement _ => some (s.decrementOnline, .done)
  | .done => none

def step (wire : Wire M B) (config : SessionConfig) (s : Gateway B) :
    Label M → Option (Gateway B)
  | .login gid conn routes clientSeq => some (s.login gid conn routes clientSeq)
  | .reconnect gid previous conn seq ack => s.fetch gid (.reconnect gid · previous conn seq ack)
  | .disconnect gid sessionId => s.fetch gid (.disconnect gid · sessionId)
  | .kick gid sessionId => s.fetch gid (.kick gid · sessionId)
  | .logout gid sessionId seq ack => s.fetch gid (.logout gid · sessionId seq ack)
  | .pruneExpired now => some { s with sessions := s.sessions.pruneExpired now config }
  | .tick i message now =>
    s.tasks[i]?.bind fun task =>
      (s.advance wire config message now task).map fun (t, next) =>
        { t with tasks := t.tasks.set i next }

def system (wire : Wire M B) (config : ValidSessionConfig) : System (Gateway B) (Label M) :=
  .ofFun (· = .new) (step wire config.toSessionConfig)

/-- No handler stands between its table step and its counter update. -/
def Settled (s : Gateway B) : Prop :=
  ∀ task ∈ s.tasks, task.owesIncrement = 0 ∧ task.owesDecrement = 0

/-- The counter is the number of active entries whenever it can be compared
    with them, and no decrement was swallowed. -/
def Agrees (s : Gateway B) : Prop :=
  (s.Settled → s.onlineCount = s.sessions.activePlayers.card) ∧ s.hidden = false

/-! ## Which table steps keep the books -/

/-- A step that changes the activity of a session must find it in the table, and
    one that removes an entry must agree with the counter update it leads to. -/
def FaithfulTask (config : SessionConfig) (s : Gateway B) (now : Nat) : Task → Prop
  | .reconnect gid arc previous _ seq ack =>
    ∀ session ∈ s.sessions.arcs[arc]?, session.active = false →
      session.resumable previous seq = true →
      (session.pruneOutbox now config.resumeTtl).outboxGap ack = false → s.sessions.get gid = some arc
  | .disconnect gid arc sessionId | .kick gid arc sessionId =>
    ∀ session ∈ s.sessions.arcs[arc]?, session.sessionId = sessionId → session.active = true →
      s.sessions.get gid = some arc
  | .kicked gid arc _ => s.sessions.get gid = some arc → s.sessions.activeArc arc = false
  | .invalidate gid sessionId =>
    ∃ arc ∈ s.sessions.get gid, ∃ session ∈ s.sessions.arcs[arc]?,
      session.sessionId = sessionId ∧ session.active = true
  | .decrement gid => .increment gid ∉ s.tasks
  | .logout .. | .increment _ | .done => True

def Faithful (config : SessionConfig) (s : Gateway B) : Label M → Prop
  | .tick i _ now => ∀ task ∈ s.tasks[i]?, s.FaithfulTask config now task
  | _ => True

instance (s : Gateway B) : Decidable s.Agrees :=
  inferInstanceAs (Decidable (((∀ task ∈ s.tasks, _ = _ ∧ _ = _) → _ = _) ∧ _ = _))

instance (config : SessionConfig) (s : Gateway B) (now : Nat) (task : Task) :
    Decidable (s.FaithfulTask config now task) :=
  match task with
  | .reconnect _ arc .. =>
    inferInstanceAs (Decidable (∀ session ∈ s.sessions.arcs[arc]?, _ = _ → _ = _ → _ = _ → _ = _))
  | .disconnect _ arc _ | .kick _ arc _ =>
    inferInstanceAs (Decidable (∀ session ∈ s.sessions.arcs[arc]?, _ = _ → _ = _ → _ = _))
  | .kicked .. => inferInstanceAs (Decidable (_ = _ → _ = _))
  | .invalidate gid _ =>
    inferInstanceAs (Decidable (∃ arc ∈ s.sessions.get gid, ∃ session ∈ s.sessions.arcs[arc]?, _ = _ ∧ _ = _))
  | .decrement _ => inferInstanceAs (Decidable (_ ∉ s.tasks))
  | .logout .. | .increment _ | .done => .isTrue trivial

instance (config : SessionConfig) (s : Gateway B) (l : Label M) : Decidable (s.Faithful config l) :=
  match l with
  | .tick i _ _ => inferInstanceAs (Decidable (∀ task ∈ s.tasks[i]?, s.FaithfulTask config _ task))
  | .login .. | .reconnect .. | .disconnect .. | .kick .. | .logout .. | .pruneExpired _ =>
    .isTrue trivial

end Gateway

/-! ## What the table operations do to the active entries -/

namespace ClientSessions

variable {B : Type} {s : ClientSessions B}

/-- An `Arc` is in the map at most once. -/
structure WellFormed (s : ClientSessions B) : Prop where
  distinct : ∀ gid other arc, s.get gid = some arc → s.get other = some arc → gid = other
  bounded : ∀ gid arc, s.get gid = some arc → arc < s.arcs.length

theorem activeArc_store_self {arc : Nat} {old : ClientSession B} (session : ClientSession B)
    (found : s.arcs[arc]? = some old) : (s.store arc session).activeArc arc = session.active := by
  change ((s.arcs.set arc session)[arc]?).any _ = _
  rw [Pool.get_set_self session found]
  rfl

theorem activeArc_store_ne {arc other : Nat} (session : ClientSession B) (differ : arc ≠ other) :
    (s.store arc session).activeArc other = s.activeArc other := by
  change ((s.arcs.set arc session)[other]?).any _ = _
  rw [Pool.get_set_ne session differ]
  rfl

theorem activeArc_eq {arc : Nat} {session : ClientSession B} (found : s.arcs[arc]? = some session) :
    s.activeArc arc = session.active := by
  rw [activeArc, found]
  rfl

theorem wellFormed_store (wf : s.WellFormed) (arc : Nat) (session : ClientSession B) :
    (s.store arc session).WellFormed where
  distinct := wf.distinct
  bounded := by
    intro gid other found
    change other < (s.arcs.set arc session).length
    rw [List.length_set]
    exact wf.bounded gid other found

/-- A session that stays active, or inactive, leaves the entries as they were,
    whether or not the map still holds it. -/
theorem activePlayers_store_same {arc : Nat} {old session : ClientSession B}
    (found : s.arcs[arc]? = some old) (same : session.active = old.active) :
    (s.store arc session).activePlayers = s.activePlayers := by
  refine Table.total_congr ?_
  intro gid other _
  by_cases here : arc = other
  · subst here
    rw [activeArc_store_self session found, same, activeArc_eq found]
  · rw [activeArc_store_ne session here]

/-- A change of the session in the map shows in the entry of its player only. -/
theorem activePlayers_store (wf : s.WellFormed) {gid : Gid} {arc : Nat}
    {old : ClientSession B} (session : ClientSession B) (mapped : s.get gid = some arc)
    (found : s.arcs[arc]? = some old) :
    (s.store arc session).activePlayers + share gid old.active =
      s.activePlayers + share gid session.active := by
  have changed := Table.total_change
    (fun gid arc => share gid (s.activeArc arc))
    (fun gid other => share gid ((s.store arc session).activeArc other)) mapped ?_
  · simp only [activeArc_store_self session found, activeArc_eq found] at changed
    exact changed
  · intro other held differ there
    have apart : arc ≠ held := by
      rintro rfl
      exact differ (wf.distinct other gid arc there mapped)
    rw [activeArc_store_ne session apart]

theorem wellFormed_erase (wf : s.WellFormed) (gid : Gid) :
    WellFormed { s with players := s.players.erase gid } := by
  have still : ∀ other arc, (s.players.erase gid).lookup other = some arc → s.get other = some arc := by
    intro other arc found
    by_cases same : other = gid
    · rw [same, AList.lookup_erase] at found
      cases found
    · rwa [AList.lookup_erase_ne same] at found
  exact
    { distinct := fun g h arc first second => wf.distinct g h arc (still g arc first) (still h arc second)
      bounded := fun g arc found => wf.bounded g arc (still g arc found) }

theorem activePlayers_erase {gid : Gid} {arc : Nat} (mapped : s.get gid = some arc) :
    s.activePlayers = share gid (s.activeArc arc)
      + activePlayers { s with players := s.players.erase gid } :=
  Table.total_erase _ mapped

theorem wellFormed_installLogin (wf : s.WellFormed) (gid : Gid) (conn : Connection)
    (routes : Routes) (clientSeq : UInt32) :
    (s.installLogin gid conn routes clientSeq).2.WellFormed := by
  have entry : ∀ other arc, (s.players.insert gid s.arcs.length).lookup other = some arc →
      (other = gid ∧ arc = s.arcs.length) ∨ (s.get other = some arc ∧ arc < s.arcs.length) := by
    intro other arc found
    by_cases same : other = gid
    · subst same
      rw [AList.lookup_insert] at found
      exact .inl ⟨rfl, (Option.some.inj found).symm⟩
    · rw [AList.lookup_insert_ne same] at found
      exact .inr ⟨found, wf.bounded other arc found⟩
  refine ⟨?_, ?_⟩
  · intro g h arc first second
    rcases entry g arc first with ⟨rfl, fresh⟩ | ⟨before, old⟩
    · rcases entry h arc second with ⟨rfl, _⟩ | ⟨_, old⟩
      · rfl
      · omega
    · rcases entry h arc second with ⟨rfl, fresh⟩ | ⟨before', _⟩
      · omega
      · exact wf.distinct g h arc before before'
  · intro g arc found
    change arc < (s.arcs ++ [_]).length
    rw [List.length_append, List.length_singleton]
    rcases entry g arc found with ⟨_, fresh⟩ | ⟨_, old⟩ <;> omega

/-- The new entry is active; it takes the place of whatever was there. -/
theorem activePlayers_installLogin (wf : s.WellFormed) (gid : Gid) (conn : Connection)
    (routes : Routes) (clientSeq : UInt32) :
    (s.installLogin gid conn routes clientSeq).2.activePlayers =
      s.activePlayers + share gid (s.installLogin gid conn routes clientSeq).1 := by
  have rest : Table.total
      (fun other arc => share other
        ((s.installLogin gid conn routes clientSeq).2.activeArc arc)) (s.players.erase gid) =
      activePlayers { s with players := s.players.erase gid } := by
    apply Table.total_congr
    intro other arc found
    have old := (wellFormed_erase wf gid).bounded other arc found
    change share other (((s.arcs ++ [_])[arc]?).any _) = share other ((s.arcs[arc]?).any _)
    rw [List.getElem?_append_left old]
  have fresh : (s.installLogin gid conn routes clientSeq).2.activeArc s.arcs.length = true := by
    change ((s.arcs ++ [_])[s.arcs.length]?).any _ = true
    rw [Pool.get_append_self]
    rfl
  have inserted : (s.installLogin gid conn routes clientSeq).2.activePlayers =
      {gid} + activePlayers { s with players := s.players.erase gid } := by
    refine (Table.total_insert _ s.players gid s.arcs.length).trans ?_
    rw [rest, fresh]
    rfl
  rw [inserted]
  change _ = s.activePlayers + share gid (!(s.get gid).any s.activeArc)
  cases entry : s.get gid with
  | none =>
    have absent : activePlayers { s with players := s.players.erase gid } = s.activePlayers := by
      rw [Table.erase_of_none entry]
    rw [absent, add_comm]
    rfl
  | some arc =>
    rw [activePlayers_erase entry]
    cases active : s.activeArc arc with
    | true => simp [share, active]
    | false => simp [share, active, add_comm]

theorem wellFormed_pruneExpired (wf : s.WellFormed) (now : Nat) (config : SessionConfig) :
    (s.pruneExpired now config).WellFormed where
  distinct := fun g h arc first second =>
    wf.distinct g h arc (Table.lookup_retain.mp first).1 (Table.lookup_retain.mp second).1
  bounded := fun g arc found => wf.bounded g arc (Table.lookup_retain.mp found).1

/-- Only inactive entries expire. -/
theorem activePlayers_pruneExpired (wf : s.WellFormed) (now : Nat) (config : SessionConfig) :
    (s.pruneExpired now config).activePlayers = s.activePlayers := by
  change Table.total (fun gid arc => share gid (s.activeArc arc)) (Table.retain _ s.players) =
    s.activePlayers
  apply Table.total_retain
  intro gid arc mapped dropped
  obtain ⟨session, found⟩ : ∃ session, s.arcs[arc]? = some session :=
    ⟨_, List.getElem?_eq_getElem (wf.bounded gid arc mapped)⟩
  rw [found] at dropped
  simp only [Option.any_some, Bool.or_eq_false_iff] at dropped
  change share gid (s.activeArc arc) = 0
  rw [activeArc_eq found, dropped.1]
  rfl

end ClientSessions

/-! ## Sessions change their activity in three places only -/

namespace ClientSession

variable {M B : Type}

theorem encode_conn (wire : Wire M B) (s : ClientSession B) (msgid : MsgId) (message : M)
    (now : Nat) (config : SessionConfig) :
    (s.encode wire msgid message now config).2.conn = s.conn := by
  have room : ∀ s : ClientSession B, (s.makeRoom now config).conn = s.conn := by
    intro s
    unfold makeRoom evictOldest
    simp only
    split
    · split <;> rfl
    · rfl
  simp only [encode]
  split
  · rfl
  · split
    · exact room _
    · rfl

theorem acceptRequest_active (s : ClientSession B) (sessionId : SessionId) (seq ack : UInt32)
    (now : Nat) (config : SessionConfig) :
    (s.acceptRequest sessionId seq ack now config).2.active = s.active := by
  obtain ⟨times, same⟩ := s.acceptRequest_snd sessionId seq ack now config
  rw [same]
  rcases s.acceptSequence_cases sessionId seq ack now config.resumeTtl with
    ⟨error, result⟩ | ⟨_, _, _, result⟩ <;> rw [result] <;> rfl

/-- `kick` takes the connection out of the session that it is meant for. -/
theorem kick_cases (wire : Wire M B) (s : ClientSession B) (sessionId : SessionId) (message : M)
    (now : Nat) (config : SessionConfig) :
    (s.kick wire sessionId message now config = (none, s))
    ∨ (s.sessionId = sessionId
      ∧ (s.kick wire sessionId message now config).1 = some s.active
      ∧ (s.kick wire sessionId message now config).2.active = false) := by
  unfold kick
  by_cases mismatch : s.sessionId ≠ sessionId
  · exact .inl (if_pos mismatch)
  · refine .inr ⟨not_not.mp mismatch, ?_⟩
    rw [if_neg mismatch]
    cases conn : s.conn with
    | none => simp [active, conn]
    | some c => simp [active, conn, encode_conn]

end ClientSession

/-! ## The books stay balanced -/

namespace Gateway

variable {M B : Type} {s t : Gateway B}

def increments (s : Gateway B) : Multiset Gid := Pool.total Task.owesIncrement s.tasks

def decrements (s : Gateway B) : Multiset Gid := Pool.total Task.owesDecrement s.tasks

structure Balanced (s : Gateway B) : Prop where
  wellFormed : s.sessions.WellFormed
  -- each player is counted once for being active and once for each decrement to come
  books : ∃ counted : Multiset Gid, s.increments + counted = s.sessions.activePlayers + s.decrements
    ∧ s.onlineCount = counted.card
  hidden : s.hidden = false

theorem balanced_new : Balanced (new : Gateway B) where
  wellFormed := ⟨by rintro _ _ _ ⟨⟩, by rintro _ _ ⟨⟩⟩
  books := ⟨0, rfl, rfl⟩
  hidden := rfl

theorem Balanced.ledger (inv : Balanced s) :
    Books.Balanced Task.owesIncrement Task.owesDecrement s.tasks s.sessions.activePlayers s.onlineCount :=
  inv.books

/-- A handler moves on: what it comes to owe must match what it did to the
    table. -/
theorem Balanced.move (inv : Balanced s) {i : Nat} {task next : Task}
    (found : s.tasks[i]? = some task) {sessions : ClientSessions B}
    (wellFormed : sessions.WellFormed)
    (exchange : next.owesIncrement + task.owesDecrement + s.sessions.activePlayers =
      task.owesIncrement + next.owesDecrement + sessions.activePlayers) :
    Balanced { s with sessions := sessions, tasks := s.tasks.set i next } :=
  ⟨wellFormed, inv.ledger.move found exchange, inv.hidden⟩

theorem Balanced.spawn (inv : Balanced s) {task : Task} {sessions : ClientSessions B}
    (wellFormed : sessions.WellFormed)
    (exchange : task.owesIncrement + s.sessions.activePlayers =
      task.owesDecrement + sessions.activePlayers) :
    Balanced ({ s with sessions := sessions }.spawn task) :=
  ⟨wellFormed, inv.ledger.spawn exchange, inv.hidden⟩

/-- A handler that acts on a session without changing its activity. -/
theorem Balanced.quiet (inv : Balanced s) {i : Nat} {task next : Task}
    (found : s.tasks[i]? = some task) {arc : Nat} {old session : ClientSession B}
    (behind : s.sessions.arcs[arc]? = some old) (same : session.active = old.active)
    (increment : next.owesIncrement = task.owesIncrement)
    (decrement : next.owesDecrement = task.owesDecrement) :
    Balanced { s with sessions := s.sessions.store arc session, tasks := s.tasks.set i next } := by
  refine inv.move found (ClientSessions.wellFormed_store inv.wellFormed arc session) ?_
  rw [increment, decrement, ClientSessions.activePlayers_store_same behind same]

/-- A handler that changes the activity of the session in the table. -/
theorem Balanced.toggle (inv : Balanced s) {i : Nat} {task next : Task}
    (found : s.tasks[i]? = some task) {gid : Gid} {arc : Nat} {old session : ClientSession B}
    (behind : s.sessions.arcs[arc]? = some old) (mapped : s.sessions.get gid = some arc)
    (exchange : next.owesIncrement + task.owesDecrement + ClientSessions.share gid old.active =
      task.owesIncrement + next.owesDecrement + ClientSessions.share gid session.active) :
    Balanced { s with sessions := s.sessions.store arc session, tasks := s.tasks.set i next } := by
  have stored := ClientSessions.activePlayers_store inv.wellFormed session mapped behind
  refine inv.move found (ClientSessions.wellFormed_store inv.wellFormed arc session) ?_
  apply add_right_cancel (b := ClientSessions.share gid old.active)
  calc next.owesIncrement + task.owesDecrement + s.sessions.activePlayers
        + ClientSessions.share gid old.active
      = (next.owesIncrement + task.owesDecrement + ClientSessions.share gid old.active)
        + s.sessions.activePlayers := by abel
    _ = task.owesIncrement + next.owesDecrement
        + (s.sessions.activePlayers + ClientSessions.share gid session.active) := by
      rw [exchange]; abel
    _ = task.owesIncrement + next.owesDecrement + (s.sessions.store arc session).activePlayers
        + ClientSessions.share gid old.active := by rw [← stored]; abel

/-! ## One lemma for each kind of handler -/

variable {config : SessionConfig} {i : Nat} {now : Nat}

theorem balanced_reconnect (inv : Balanced s) {gid : Gid} {arc : Nat} {previous : SessionId}
    {conn : Connection} {seq ack : UInt32}
    (found : s.tasks[i]? = some (.reconnect gid arc previous conn seq ack))
    (faithful : s.FaithfulTask config now (.reconnect gid arc previous conn seq ack))
    {old : ClientSession B} (behind : s.sessions.arcs[arc]? = some old) :
    Balanced
      { s with
        sessions := s.sessions.store arc (old.completeReconnect previous conn seq ack now config).2
        tasks := s.tasks.set i
          (match (old.completeReconnect previous conn seq ack now config).1 with
          | .ok resumed => if resumed.becameActive then .increment gid else .done
          | .error _ => .done) } := by
  rcases old.completeReconnect_cases previous conn seq ack now config with
    ⟨_, result⟩ | ⟨_, _, result⟩ | ⟨resumable, noGap, result⟩
  · rw [result]
    exact inv.quiet found behind rfl rfl rfl
  · rw [result]
    exact inv.quiet found behind rfl rfl rfl
  · rw [result]
    cases active : old.active with
    | true => exact inv.quiet found behind active.symm rfl rfl
    | false =>
      have mapped := faithful old behind active resumable noGap
      refine inv.toggle found behind mapped ?_
      rw [active]
      rfl

theorem balanced_disconnect (inv : Balanced s) {gid : Gid} {arc : Nat} {sessionId : SessionId}
    (found : s.tasks[i]? = some (.disconnect gid arc sessionId))
    (faithful : s.FaithfulTask config now (.disconnect gid arc sessionId))
    {old : ClientSession B} (behind : s.sessions.arcs[arc]? = some old) :
    Balanced
      { s with
        sessions := s.sessions.store arc (old.disconnect sessionId now).2
        tasks := s.tasks.set i
          (if (old.disconnect sessionId now).1.isSome then .decrement gid else .done) } := by
  unfold ClientSession.disconnect
  by_cases mismatch : old.sessionId ≠ sessionId ∨ old.active = false
  · rw [if_pos mismatch]
    exact inv.quiet found behind rfl rfl rfl
  · obtain ⟨same, active⟩ := not_or.mp mismatch
    have active : old.active = true := by simpa using active
    rw [if_neg mismatch]
    refine inv.toggle found behind (faithful old behind (not_not.mp same) active) ?_
    rw [active]
    rfl

theorem balanced_kick (wire : Wire M B) (inv : Balanced s) {gid : Gid} {arc : Nat}
    {sessionId : SessionId} (found : s.tasks[i]? = some (.kick gid arc sessionId))
    (faithful : s.FaithfulTask config now (.kick gid arc sessionId)) (message : M)
    {old : ClientSession B} (behind : s.sessions.arcs[arc]? = some old) :
    Balanced
      { s with
        sessions := s.sessions.store arc (old.kick wire sessionId message now config).2
        tasks := s.tasks.set i
          (match (old.kick wire sessionId message now config).1 with
          | none => .done
          | some wasActive => .kicked gid arc wasActive) } := by
  rcases old.kick_cases wire sessionId message now config with result | ⟨same, answer, inactive⟩
  · rw [result]
    exact inv.quiet found behind rfl rfl rfl
  · rw [answer]
    cases active : old.active with
    | true =>
      refine inv.toggle found behind (faithful old behind same active) ?_
      rw [active, inactive]
      rfl
    | false => exact inv.quiet found behind (inactive.trans active.symm) rfl rfl

theorem balanced_kicked (inv : Balanced s) {gid : Gid} {arc : Nat} {wasActive : Bool}
    (found : s.tasks[i]? = some (.kicked gid arc wasActive))
    (faithful : s.FaithfulTask config now (.kicked gid arc wasActive)) :
    Balanced
      { s with
        sessions := s.sessions.removeKicked gid arc
        tasks := s.tasks.set i (if wasActive then .decrement gid else .done) } := by
  have owes : (if wasActive then Task.decrement gid else .done).owesDecrement =
      (Task.kicked gid arc wasActive).owesDecrement := by cases wasActive <;> rfl
  have none : (if wasActive then Task.decrement gid else .done).owesIncrement = 0 := by
    cases wasActive <;> rfl
  unfold ClientSessions.removeKicked
  by_cases mapped : s.sessions.get gid = some arc
  · rw [if_pos mapped]
    refine inv.move found (ClientSessions.wellFormed_erase inv.wellFormed gid) ?_
    have removed := ClientSessions.activePlayers_erase mapped
    rw [faithful mapped] at removed
    rw [owes, none, removed]
    change 0 + _ + (0 + _) = 0 + _ + _
    rw [zero_add, zero_add]
  · rw [if_neg mapped]
    refine inv.move found inv.wellFormed ?_
    rw [owes, none]
    rfl

theorem balanced_invalidate (inv : Balanced s) {gid : Gid} {sessionId : SessionId}
    (found : s.tasks[i]? = some (.invalidate gid sessionId))
    (faithful : s.FaithfulTask config now (.invalidate gid sessionId)) :
    Balanced
      { s with
        sessions := (s.sessions.invalidate gid sessionId).2
        tasks := s.tasks.set i (.decrement gid) } := by
  obtain ⟨arc, mapped, session, behind, same, active⟩ := faithful
  have mapped : s.sessions.get gid = some arc := mapped
  have behind : s.sessions.arcs[arc]? = some session := behind
  have removed := ClientSessions.activePlayers_erase mapped
  rw [ClientSessions.activeArc_eq behind, active] at removed
  have matched : (s.sessions.invalidate gid sessionId).2 =
      { s.sessions with players := s.sessions.players.erase gid } := by
    simp [ClientSessions.invalidate, mapped, behind, same]
  rw [matched]
  refine inv.move found (ClientSessions.wellFormed_erase inv.wellFormed gid) ?_
  rw [removed]
  change (0 : Multiset Gid) + 0 + ({gid} + _) = 0 + {gid} + _
  rw [zero_add, zero_add, zero_add]

theorem balanced_increment (inv : Balanced s) {gid : Gid}
    (found : s.tasks[i]? = some (.increment gid)) :
    Balanced { s with onlineCount := s.onlineCount + 1, tasks := s.tasks.set i .done } :=
  ⟨inv.wellFormed, inv.ledger.increment found rfl rfl rfl, inv.hidden⟩

/-- A player that owes a decrement, and no increment, has been counted: the
    clamp is not reached. -/
theorem balanced_decrement (inv : Balanced s) {gid : Gid}
    (found : s.tasks[i]? = some (.decrement gid))
    (faithful : s.FaithfulTask config now (.decrement gid)) :
    Balanced { s.decrementOnline with tasks := s.tasks.set i .done } := by
  have absent : ∀ task ∈ s.tasks, gid ∉ task.owesIncrement := by
    intro task isTask owes
    cases task with
    | increment other =>
      rw [Multiset.mem_singleton.mp owes] at faithful
      exact faithful isTask
    | _ => simp [Task.owesIncrement] at owes
  have paid : Task.done.owesDecrement = 0 := rfl
  obtain ⟨positive, books⟩ := inv.ledger.decrement found rfl paid rfl absent
  have exact : max (s.onlineCount - 1) 0 = s.onlineCount - 1 := by omega
  refine ⟨inv.wellFormed, ?_, ?_⟩
  · change Books.Balanced _ _ (s.tasks.set i .done) s.sessions.activePlayers (max (s.onlineCount - 1) 0)
    rw [exact]
    exact books
  · change (s.hidden || decide (s.onlineCount ≤ 0)) = false
    rw [inv.hidden, Bool.false_or, decide_eq_false_iff_not]
    omega

theorem balanced_advance (wire : Wire M B) (inv : Balanced s) {task next : Task} {message : M}
    (found : s.tasks[i]? = some task) (faithful : s.FaithfulTask config now task)
    (taken : s.advance wire config message now task = some (t, next)) :
    Balanced { t with tasks := t.tasks.set i next } := by
  cases task with
  | reconnect gid arc previous conn seq ack =>
    simp only [advance, Option.map_eq_some_iff] at taken
    obtain ⟨old, behind, taken⟩ := taken
    have moved := balanced_reconnect inv found faithful behind
    split at taken
    · obtain ⟨rfl, rfl⟩ := Prod.mk.inj taken
      rename_i ok
      rw [ok] at moved
      exact moved
    · obtain ⟨rfl, rfl⟩ := Prod.mk.inj taken
      rename_i error
      rw [error] at moved
      exact moved
  | disconnect gid arc sessionId =>
    simp only [advance, Option.map_eq_some_iff] at taken
    obtain ⟨old, behind, taken⟩ := taken
    obtain ⟨rfl, rfl⟩ := Prod.mk.inj taken
    exact balanced_disconnect inv found faithful behind
  | kick gid arc sessionId =>
    simp only [advance, Option.map_eq_some_iff] at taken
    obtain ⟨old, behind, taken⟩ := taken
    have moved := balanced_kick wire inv found faithful message behind
    split at taken
    · obtain ⟨rfl, rfl⟩ := Prod.mk.inj taken
      rename_i answer
      rw [answer] at moved
      exact moved
    · obtain ⟨rfl, rfl⟩ := Prod.mk.inj taken
      rename_i answer
      rw [answer] at moved
      exact moved
  | logout gid arc sessionId seq ack =>
    simp only [advance, Option.map_eq_some_iff] at taken
    obtain ⟨old, behind, taken⟩ := taken
    have same := old.acceptRequest_active sessionId seq ack now config
    split at taken
    · obtain ⟨rfl, rfl⟩ := Prod.mk.inj taken
      exact inv.quiet found behind same rfl rfl
    · obtain ⟨rfl, rfl⟩ := Prod.mk.inj taken
      exact inv.quiet found behind same rfl rfl
  | kicked gid arc wasActive =>
    obtain ⟨rfl, rfl⟩ := Prod.mk.inj (Option.some.inj taken)
    exact balanced_kicked inv found faithful
  | invalidate gid sessionId =>
    obtain ⟨rfl, rfl⟩ := Prod.mk.inj (Option.some.inj taken)
    exact balanced_invalidate inv found faithful
  | increment gid =>
    obtain ⟨rfl, rfl⟩ := Prod.mk.inj (Option.some.inj taken)
    exact balanced_increment inv found
  | decrement gid =>
    obtain ⟨rfl, rfl⟩ := Prod.mk.inj (Option.some.inj taken)
    exact balanced_decrement inv found faithful
  | done => cases taken

/-- A handler that only holds an `Arc` owes nothing. -/
theorem balanced_fetch (inv : Balanced s) {gid : Gid} {task : Nat → Task}
    (increment : ∀ arc, (task arc).owesIncrement = 0)
    (decrement : ∀ arc, (task arc).owesDecrement = 0) (taken : s.fetch gid task = some t) :
    Balanced t := by
  simp only [fetch, Option.map_eq_some_iff] at taken
  obtain ⟨arc, _, rfl⟩ := taken
  exact inv.spawn inv.wellFormed (by rw [increment, decrement])

theorem balanced_login (inv : Balanced s) (gid : Gid) (conn : Connection) (routes : Routes)
    (clientSeq : UInt32) : Balanced (s.login gid conn routes clientSeq) := by
  have wellFormed := ClientSessions.wellFormed_installLogin inv.wellFormed gid conn routes clientSeq
  have active := ClientSessions.activePlayers_installLogin inv.wellFormed gid conn routes clientSeq
  unfold login
  cases became : (s.sessions.installLogin gid conn routes clientSeq).1 with
  | true =>
    rw [became] at active
    simp only [became, if_true]
    refine inv.spawn wellFormed ?_
    rw [active]
    change {gid} + _ = (0 : Multiset Gid) + (_ + {gid})
    rw [zero_add, add_comm]
  | false =>
    rw [became] at active
    simp only [became]
    obtain ⟨counted, books, online⟩ := inv.books
    refine ⟨wellFormed, ⟨counted, ?_, online⟩, inv.hidden⟩
    refine books.trans (congrArg (· + s.decrements) ?_)
    exact (active.trans (add_zero _)).symm

theorem balanced_step (wire : Wire M B) (inv : Balanced s) {l : Label M}
    (faithful : s.Faithful config l) (taken : s.step wire config l = some t) : Balanced t := by
  cases l with
  | login gid conn routes clientSeq =>
    obtain rfl := Option.some.inj taken
    exact balanced_login inv gid conn routes clientSeq
  | reconnect gid previous conn seq ack =>
    exact balanced_fetch inv (fun _ => rfl) (fun _ => rfl) taken
  | disconnect gid sessionId => exact balanced_fetch inv (fun _ => rfl) (fun _ => rfl) taken
  | kick gid sessionId => exact balanced_fetch inv (fun _ => rfl) (fun _ => rfl) taken
  | logout gid sessionId seq ack => exact balanced_fetch inv (fun _ => rfl) (fun _ => rfl) taken
  | pruneExpired now =>
    obtain rfl := Option.some.inj taken
    obtain ⟨counted, books, online⟩ := inv.books
    refine ⟨ClientSessions.wellFormed_pruneExpired inv.wellFormed now config,
      ⟨counted, ?_, online⟩, inv.hidden⟩
    refine books.trans (congrArg (· + s.decrements) ?_)
    exact (ClientSessions.activePlayers_pruneExpired inv.wellFormed now config).symm
  | tick i message now =>
    simp only [step, Option.bind_eq_some_iff, Option.map_eq_some_iff] at taken
    obtain ⟨task, found, ⟨u, next⟩, advanced, rfl⟩ := taken
    exact balanced_advance wire inv found (faithful task found) advanced

theorem agrees_of_balanced (inv : Balanced s) : s.Agrees :=
  ⟨fun settled => inv.ledger.settled settled, inv.hidden⟩

/-- As long as every table step is faithful, the counter agrees with the table
    in every state that can be reached. -/
theorem online_count_agrees (wire : Wire M B) (config : ValidSessionConfig) {s : Gateway B}
    (reached : (system wire config).Reach (Faithful config.toSessionConfig) s) : s.Agrees := by
  refine agrees_of_balanced (reached.inv ?_ ?_)
  · rintro _ rfl
    exact balanced_new
  · intro s l t inv faithful taken
    exact balanced_step wire inv faithful taken

/-- A wire without contents. -/
def blankWire : Wire Unit Unit where
  systemMsgIdEnd := 100
  encodeMessage _ _ := some ()

/-- Two players are online.  The first one logs out and its connection closes
    before `invalidate`. -/
def lateInvalidate : List (Label Unit) :=
  [.login 1 ⟨7⟩ ⟨1, 2⟩ 0, .tick 0 () 0, .login 2 ⟨8⟩ ⟨1, 2⟩ 0, .tick 1 () 0,
    .logout 1 7 1 0, .tick 2 () 1, .disconnect 1 7, .tick 3 () 2, .tick 3 () 2,
    .tick 2 () 3, .tick 2 () 3]

theorem logout_counts_twice :
    ¬ ∀ s : Gateway Unit, (system blankWire .hardLimits).Reach System.Any s → s.Agrees := by
  intro agrees
  have drift : ∃ s, System.follow System.Any (step blankWire SessionConfig.HARD_LIMITS) new
      lateInvalidate = some s ∧ ¬ s.Agrees := by
    decide +kernel
  obtain ⟨s, followed, wrong⟩ := drift
  exact wrong (agrees s (System.reach_of_follow rfl followed))

/-- The first player disconnects and resumes, the second one logs out. -/
def quietEvening : List (Label Unit) :=
  [.login 1 ⟨7⟩ ⟨1, 2⟩ 0, .tick 0 () 0, .login 2 ⟨8⟩ ⟨1, 2⟩ 0, .tick 1 () 0,
    .disconnect 1 7, .tick 2 () 1, .tick 2 () 1, .reconnect 1 7 ⟨9⟩ 1 0, .tick 3 () 2, .tick 3 () 2,
    .logout 2 8 1 0, .tick 4 () 3, .tick 4 () 3, .tick 4 () 3, .pruneExpired 4]

theorem quietEvening_agrees :
    ∃ s : Gateway Unit, s.Settled ∧ s.onlineCount = 1 ∧ s.Agrees := by
  have run : ∃ s, System.follow (Faithful SessionConfig.HARD_LIMITS)
      (step blankWire SessionConfig.HARD_LIMITS) new quietEvening = some s
      ∧ (∀ task ∈ s.tasks, task.owesIncrement = 0 ∧ task.owesDecrement = 0)
      ∧ s.onlineCount = 1 := by
    decide +kernel
  obtain ⟨s, followed, settled, count⟩ := run
  exact ⟨s, settled, count, online_count_agrees blankWire .hardLimits
    (System.reach_of_follow rfl followed)⟩

end Gateway

end Xkk.Gate
