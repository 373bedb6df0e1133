import Xkk.Gate.Closing
import Xkk.Lib.FanOut

/-! # The shutdown of a Gate

`Gateway::shutdown` sets `draining`, takes the workers out of their map, closes
their connections and awaits their tasks one after the other.  Then it takes the
sessions out of the table, sets `online_count` to zero, and tells Logic and Redis
of every session, with at most `SHUTDOWN_CLEANUP_CONCURRENCY` tasks at a time.

Connections open and close all the while, and the handlers that started earlier
run on.  `on_disconnected` takes a worker out of the map itself and aborts its
task.  A task that waits ends at once; one that is between two awaits runs on to
the next await, and `shutdown` does not wait for it.
-/

namespace Xkk.Gate

open Xkk.Lib

def SHUTDOWN_CLEANUP_CONCURRENCY : Nat := 64

structure ClosingSession where
  gid : Gid
  sessionId : SessionId
  routes : Routes
deriving DecidableEq, Repr

/-- What `drain` returns, in the order of the map. -/
def ClientSessions.closing {B : Type} (s : ClientSessions B) : List ClosingSession :=
  s.players.entries.filterMap fun entry => s.arcs[entry.2]?.map fun session =>
    ⟨entry.1, session.sessionId, session.routes⟩

theorem ClientSessions.nodup_closing {B : Type} (s : ClientSessions B) : s.closing.Nodup := by
  apply List.Pairwise.filterMap _ _ (s.players.nodupKeys.pairwise_ne)
  rintro ⟨gid, arc⟩ ⟨other, held⟩ differ closing isClosing another isAnother rfl
  obtain ⟨session, _, rfl⟩ := Option.map_eq_some_iff.mp isClosing
  obtain ⟨_, _, same⟩ := Option.map_eq_some_iff.mp isAnother
  exact differ (congrArg ClosingSession.gid same).symm

structure LogicDisconnectNtf where
  gid : Gid
  gateId : Int
  playerSession : SessionId
deriving DecidableEq, Repr

/-- What `cleanup_shutdown_session` asks of the other services. -/
inductive Cleanup where
  | sendTo (logicId : Int) (notice : LogicDisconnectNtf)
  | clearGateBySession (gid : Gid) (sessionId : SessionId)
deriving DecidableEq, Repr

/-- A failed call is logged, and the next one is made. -/
def cleanupShutdownSession (gateId : Int) (session : ClosingSession) : List Cleanup :=
  [.sendTo session.routes.logicId ⟨session.gid, gateId, session.sessionId⟩,
    .clearGateBySession session.gid session.sessionId]

/-! ## Workers -/

/-- Where the task of a worker stands.  `receive` and `handle` are awaits, of the
    mailbox and inside `handle_packet`. -/
inductive Working where
  | receive
  | handle
  | bind (request : BindRequest)
  | check (request : BindRequest)
  | enter (request : BindRequest)
  | complete (gid : Gid) (arc : Nat) (previous : SessionId) (seq ack : UInt32)
  | increment
  | ended
deriving DecidableEq, Repr

def Working.awaits : Working → Bool
  | .receive | .handle => true
  | _ => false

/-- What the task knows of the `user_id` of its connection, and of the `Arc` that
    it holds. -/
def Working.Owns (arcs : Nat) (userId : Option Gid) : Working → Prop
  | .bind _ => userId = none
  | .check request | .enter request => userId = some request.gid
  | .complete gid arc _ _ _ => userId = some gid ∧ arc < arcs
  | _ => True

theorem Working.Owns.mono {arcs more : Nat} {userId : Option Gid} {working : Working}
    (owns : working.Owns arcs userId) (grows : arcs ≤ more) : working.Owns more userId := by
  cases working with
  | complete gid arc previous seq ack => exact ⟨owns.1, Nat.lt_of_lt_of_le owns.2 grows⟩
  | receive | handle | increment | ended => trivial
  | bind request => exact owns
  | check request => exact owns
  | enter request => exact owns

/-- The steps that the task has ahead of it, at most. -/
def Working.left : Working → Nat
  | .ended => 0
  | .receive => 1
  | .handle => 2
  | .increment => 3
  | .complete .. => 4
  | .enter _ => 5
  | .check _ => 6
  | .bind _ => 7

structure Client where
  userId : Option Gid
  isClosed : Bool
  disconnected : Bool      -- `on_disconnected` was called
  worker : Option Working
  torn : Bool              -- the task was aborted between two awaits
deriving DecidableEq, Repr

namespace Client

/-- A task that was aborted ends at its next await. -/
def moveTo (client : Client) (next : Working) : Client :=
  { client with worker := some (if client.torn ∧ next.awaits then .ended else next) }

def close (client : Client) : Client := { client with isClosed := true }

def abort (client : Client) : Client :=
  match client.worker with
  | none | some .ended => client
  | some working => if working.awaits then { client with worker := some .ended } else { client with torn := true }

theorem moveTo_left (client : Client) (next : Working) :
    ∃ working, (client.moveTo next).worker = some working ∧ working.left ≤ next.left := by
  refine ⟨_, rfl, ?_⟩
  split
  · exact Nat.zero_le _
  · exact Nat.le_refl _

/-- What a step on one client keeps of it. -/
structure Later (old next : Client) : Prop where
  torn : old.torn = true → next.torn = true
  userId : ∀ gid, old.userId = some gid → next.userId = some gid
  worker : old.worker ≠ none → next.worker ≠ none

theorem Later.refl (client : Client) : Later client client := ⟨id, fun _ => id, id⟩

/-- The task ends, or it is between two awaits and is torn. -/
theorem abort_cases (client : Client) : Later client client.abort ∧
    ((∀ working ∈ client.abort.worker, working = .ended)
    ∨ (client.abort = { client with torn := true } ∧ ∀ working ∈ client.worker, working.awaits = false)) := by
  unfold abort
  split
  · next none => exact ⟨.refl client, .inl (by simp [none])⟩
  · next ended => exact ⟨.refl client, .inl (by simp [ended])⟩
  · next working _ running =>
    split
    · exact ⟨⟨id, fun _ => id, by simp⟩, .inl (by simp)⟩
    · next goesOn => exact ⟨⟨fun _ => rfl, fun _ => id, id⟩, .inr ⟨rfl, by simpa [running] using goesOn⟩⟩

end Client

/-- An `on_disconnected` that has still to look at `draining`, and the task it
    may spawn. -/
inductive Leave where
  | looking (conn : Connection)
  | spawned (conn : Connection)
  | finished
deriving DecidableEq, Repr

/-! ## The shutdown -/

inductive Shutdown where
  | uncalled
  | flagged
  | closing (workers left : List Connection)
  | awaiting (workers : List Connection)
  | drained (sessions : List ClosingSession)
  | cleaning
  | returned
deriving DecidableEq, Repr

/-- The workers that `shutdown` has still to await. -/
def Shutdown.awaited : Shutdown → List Connection
  | .closing workers _ | .awaiting workers => workers
  | _ => []

/-- The workers whose `sender` it holds. -/
def Shutdown.senders : Shutdown → List Connection
  | .closing workers _ => workers
  | .awaiting workers => workers.tail
  | _ => []

/-- The table was drained. -/
def Shutdown.emptied : Shutdown → Bool
  | .drained _ | .cleaning | .returned => true
  | _ => false

structure Frontend (B : Type) where
  gateway : Gateway B
  draining : Bool
  workers : List Connection
  clients : Connection → Option Client
  leaves : List Leave
  shutdown : Shutdown
  closed : List ClosingSession           -- the sessions that `cleanup` is for
  cleanup : FanOut ClosingSession Cleanup

namespace Frontend

variable {M B : Type}

def new : Frontend B := ⟨.new, false, [], fun _ => none, [], .uncalled, [], .start []⟩

inductive Label (M : Type) where
  | onConnected (conn : Connection)
  | onDisconnected (conn : Connection)
  | leave (i : Nat)
  | close (conn : Connection)
  | receive (conn : Connection)                            -- the mailbox holds a frame
  | hangUp (conn : Connection)                             -- the mailbox is closed
  | bind (conn : Connection) (request : BindRequest)       -- Logic has admitted the player
  | answer (conn : Connection)                             -- `handle_packet` returns
  | work (conn : Connection) (bound : Bool) (now : Nat)    -- `bound` is what `bind_user` answers
  | kick (gid : Gid) (sessionId : SessionId)
  | logout (gid : Gid) (sessionId : SessionId) (seq ack : UInt32)
  | pruneExpired (now : Nat)
  | tick (i : Nat) (message : M) (now : Nat)
  | shutdown
  | takeWorkers (workers : List Connection)
  | closeNext
  | awaitNext
  | drain (sessions : List ClosingSession)
  | resetOnline
  | cleanup (l : FanOut.Label)
  | finish

def setClient (s : Frontend B) (conn : Connection) (client : Client) : Frontend B :=
  { s with clients := Function.update s.clients conn (some client) }

def setSessions (s : Frontend B) (sessions : ClientSessions B) : Frontend B :=
  { s with gateway := { s.gateway with sessions := sessions } }

/-- The next section of a handler between two awaits. -/
def work (config : SessionConfig) (s : Frontend B) (conn : Connection) (client : Client) (bound : Bool)
    (now : Nat) : Option (Frontend B) :=
  match client.worker with
  | some (.bind request) =>
    if bound then some (s.setClient conn ({ client with userId := some request.gid }.moveTo (.check request)))
    else some (s.setClient conn (client.close.moveTo .receive))
  | some (.check request) =>
    if client.isClosed then some (s.setClient conn (client.close.moveTo .receive))
    else some (s.setClient conn (client.moveTo (.enter request)))
  | some (.enter (.login gid routes seq)) =>
    let installed := s.gateway.sessions.installLogin gid conn routes seq
    some ((s.setSessions installed.2).setClient conn
      (client.moveTo (if installed.1 then .increment else .handle)))
  | some (.enter (.reconnect gid previous seq ack)) =>
    match s.gateway.sessions.get gid with
    | none => some (s.setClient conn (client.close.moveTo .receive))
    | some arc => some (s.setClient conn (client.moveTo (.complete gid arc previous seq ack)))
  | some (.complete _ arc previous seq ack) =>
    s.gateway.sessions.arcs[arc]?.map fun session =>
      let completed := session.completeReconnect previous conn seq ack now config
      (s.setSessions (s.gateway.sessions.store arc completed.2)).setClient conn (match completed.1 with
        | .ok resumed => client.moveTo (if resumed.becameActive then .increment else .handle)
        | .error _ => client.close.moveTo .receive)
  | some .increment =>
    some ({ s with gateway := { s.gateway with onlineCount := s.gateway.onlineCount + 1 } }.setClient conn
      (client.moveTo .handle))
  | _ => none

/-- The rest of `on_disconnected`, and the task that it spawns unless the Gate
    is draining. -/
def leave (s : Frontend B) (i : Nat) : Leave → Option (Frontend B)
  | .looking conn =>
    some { s with leaves := s.leaves.set i (if s.draining then .finished else .spawned conn) }
  | .spawned conn =>
    let s := { s with leaves := s.leaves.set i .finished }
    match (s.clients conn).bind (·.userId) with
    | none => some s
    | some gid =>
      some { s with gateway := (s.gateway.fetch gid (.disconnect gid · conn.sessionId)).getD s.gateway }
  | .finished => none

def step (wire : Wire M B) (config : SessionConfig) (gateId : Int) (s : Frontend B) :
    Label M → Option (Frontend B)
  | .onConnected conn =>
    if s.clients conn = none then
      if s.draining then some (s.setClient conn ⟨none, true, false, none, false⟩)
      else
        some ({ s with workers := conn :: s.workers }.setClient conn ⟨none, false, false, some .receive, false⟩)
    else none
  | .onDisconnected conn =>
    (s.clients conn).bind fun client =>
      if client.disconnected then none
      else
        let client := if conn ∈ s.workers then client.abort else client
        let s := { s with workers := s.workers.erase conn, leaves := s.leaves ++ [Leave.looking conn] }
        some (s.setClient conn { client with isClosed := true, disconnected := true })
  | .leave i => s.leaves[i]?.bind (s.leave i)
  | .close conn => (s.clients conn).map fun client => s.setClient conn client.close
  | .receive conn =>
    (s.clients conn).bind fun client =>
      if client.worker = some .receive then
        some (s.setClient conn (client.moveTo (if client.isClosed then .ended else .handle)))
      else none
  | .hangUp conn =>
    (s.clients conn).bind fun client =>
      if client.worker = some .receive ∧ conn ∉ s.workers ∧ conn ∉ s.shutdown.senders then
        some (s.setClient conn (client.moveTo .ended))
      else none
  | .bind conn request =>
    (s.clients conn).bind fun client =>
      if client.worker = some .handle ∧ client.userId = none then
        some (s.setClient conn (client.moveTo (.bind request)))
      else none
  | .answer conn =>
    (s.clients conn).bind fun client =>
      if client.worker = some .handle then some (s.setClient conn (client.moveTo .receive)) else none
  | .work conn bound now => (s.clients conn).bind fun client => s.work config conn client bound now
  | .kick gid sessionId =>
    (s.gateway.step wire config (.kick gid sessionId)).map fun gateway => { s with gateway := gateway }
  | .logout gid sessionId seq ack =>
    (s.gateway.step wire config (.logout gid sessionId seq ack)).map fun gateway => { s with gateway := gateway }
  | .pruneExpired now =>
    (s.gateway.step wire config (.pruneExpired now)).map fun gateway => { s with gateway := gateway }
  | .tick i message now =>
    (s.gateway.step wire config (.tick i message now)).map fun gateway => { s with gateway := gateway }
  | .shutdown => if s.shutdown = .uncalled then some { s with draining := true, shutdown := .flagged } else none
  | .takeWorkers workers =>
    -- a `HashMap` is drained in any order
    if s.shutdown = .flagged ∧ workers.Perm s.workers then
      some { s with workers := [], shutdown := .closing workers workers }
    else none
  | .closeNext => match s.shutdown with
    | .closing workers (conn :: left) =>
      (s.clients conn).map fun client =>
        { s with shutdown := .closing workers left }.setClient conn client.close
    | .closing workers [] => some { s with shutdown := .awaiting workers }
    | _ => none
  | .awaitNext => match s.shutdown with
    | .awaiting (conn :: left) =>
      (s.clients conn).bind fun client =>
        if client.worker = some .ended then some { s with shutdown := .awaiting left } else none
    | _ => none
  | .drain sessions =>
    if s.shutdown = .awaiting [] ∧ sessions.Perm s.gateway.sessions.closing then
      some { s with
        gateway := { s.gateway with sessions := s.gateway.sessions.drain }
        clients := fun conn => (s.clients conn).map fun client =>
          if conn ∈ s.gateway.sessions.draining then client.close else client
        shutdown := .drained sessions }
    else none
  | .resetOnline => match s.shutdown with
    | .drained sessions =>
      some { s with
        gateway := { s.gateway with onlineCount := 0 }
        shutdown := .cleaning
        closed := sessions
        cleanup := .start sessions }
    | _ => none
  | .cleanup l =>
    if s.shutdown = .cleaning then
      (s.cleanup.step SHUTDOWN_CLEANUP_CONCURRENCY (cleanupShutdownSession gateId) l).map fun cleanup =>
        { s with cleanup := cleanup }
    else none
  | .finish =>
    if s.shutdown = .cleaning ∧ s.cleanup.pending = [] ∧ s.cleanup.running = [] then
      some { s with shutdown := .returned }
    else none

def system (wire : Wire M B) (config : ValidSessionConfig) (gateId : Int) : System (Frontend B) (Label M) :=
  .ofFun (· = .new) (step wire config.toSessionConfig gateId)

end Frontend

/-! ## What the other handlers may still do -/

/-- The handler removes entries and counts down, if anything. -/
def Task.Removes : Task → Prop
  | .reconnect .. | .increment _ => False
  | _ => True

namespace Gateway

variable {M B : Type} {wire : Wire M B} {config : SessionConfig} {s t : Gateway B}

/-- The table loses entries, and a counter at zero stays there. -/
structure Winds (s t : Gateway B) : Prop where
  arcs : t.sessions.arcs.length = s.sessions.arcs.length
  entries : ∀ gid arc, t.sessions.get gid = some arc → s.sessions.get gid = some arc
  tasks : ∀ task ∈ t.tasks, task.Removes
  online : s.onlineCount = 0 → t.onlineCount = 0

theorem Winds.fetch (removes : ∀ task ∈ s.tasks, task.Removes) {gid : Gid} {task : Nat → Task}
    (isRemoval : ∀ arc, (task arc).Removes) (fetched : s.fetch gid task = some t) : Winds s t := by
  obtain ⟨arc, _, rfl⟩ := Option.map_eq_some_iff.mp fetched
  refine ⟨rfl, fun _ _ found => found, ?_, fun zero => zero⟩
  intro other inside
  rcases List.mem_append.mp inside with before | isNew
  · exact removes other before
  · rw [List.mem_singleton.mp isNew]
    exact isRemoval arc

theorem winds_advance {task next : Task} {message : M} {now : Nat} (removal : task.Removes)
    (advanced : s.advance wire config message now task = some (t, next)) :
    t.sessions.arcs.length = s.sessions.arcs.length
      ∧ (∀ gid arc, t.sessions.get gid = some arc → s.sessions.get gid = some arc)
      ∧ t.tasks = s.tasks ∧ next.Removes ∧ (s.onlineCount = 0 → t.onlineCount = 0) := by
  cases task with
  | reconnect => exact removal.elim
  | increment => exact removal.elim
  | done => cases advanced
  | disconnect gid arc sessionId =>
    obtain ⟨session, _, moved⟩ := Option.map_eq_some_iff.mp advanced
    simp only [Prod.mk.injEq] at moved
    obtain ⟨rfl, rfl⟩ := moved
    refine ⟨by simp [ClientSessions.store], fun _ _ found => found, rfl, ?_, fun zero => zero⟩
    split <;> trivial
  | kick gid arc sessionId =>
    obtain ⟨session, _, moved⟩ := Option.map_eq_some_iff.mp advanced
    simp only at moved
    split at moved <;> simp only [Prod.mk.injEq] at moved <;> obtain ⟨rfl, rfl⟩ := moved
    · exact ⟨by simp [ClientSessions.store], fun _ _ found => found, rfl, trivial, fun zero => zero⟩
    · exact ⟨by simp [ClientSessions.store], fun _ _ found => found, rfl, trivial, fun zero => zero⟩
  | logout gid arc sessionId seq ack =>
    obtain ⟨session, _, moved⟩ := Option.map_eq_some_iff.mp advanced
    simp only at moved
    split at moved <;> simp only [Prod.mk.injEq] at moved <;> obtain ⟨rfl, rfl⟩ := moved
    · exact ⟨by simp [ClientSessions.store], fun _ _ found => found, rfl, trivial, fun zero => zero⟩
    · exact ⟨by simp [ClientSessions.store], fun _ _ found => found, rfl, trivial, fun zero => zero⟩
  | kicked gid arc wasActive =>
    simp only [advance, Option.some.injEq, Prod.mk.injEq] at advanced
    obtain ⟨rfl, rfl⟩ := advanced
    rcases s.sessions.removeKicked_cases gid arc with ⟨_, same⟩ | ⟨_, removed⟩
    · simp only [same]
      exact ⟨trivial, fun _ _ found => found, trivial, by split <;> trivial, fun zero => zero⟩
    · simp only [removed]
      exact ⟨trivial, fun _ _ found => (ClientSessions.lookup_of_erase found).2, trivial, by split <;> trivial,
        fun zero => zero⟩
  | invalidate gid sessionId =>
    simp only [advance, Option.some.injEq, Prod.mk.injEq] at advanced
    obtain ⟨rfl, rfl⟩ := advanced
    rcases s.sessions.invalidate_cases gid sessionId with same | ⟨_, _, _, _, _, removed⟩
    · simp only [same]
      exact ⟨trivial, fun _ _ found => found, trivial, trivial, fun zero => zero⟩
    · simp only [removed]
      exact ⟨trivial, fun _ _ found => (ClientSessions.lookup_of_erase found).2, trivial, trivial,
        fun zero => zero⟩
  | decrement gid =>
    simp only [advance, Option.some.injEq, Prod.mk.injEq] at advanced
    obtain ⟨rfl, rfl⟩ := advanced
    refine ⟨rfl, fun _ _ found => found, rfl, trivial, ?_⟩
    intro zero
    simp [decrementOnline, zero]

theorem Winds.tick (removes : ∀ task ∈ s.tasks, task.Removes) {i : Nat} {message : M} {now : Nat}
    (taken : s.step wire config (.tick i message now) = some t) : Winds s t := by
  obtain ⟨task, found, moved⟩ := Option.bind_eq_some_iff.mp taken
  obtain ⟨⟨after, next⟩, advanced, rfl⟩ := Option.map_eq_some_iff.mp moved
  obtain ⟨arcs, entries, tasks, removal, online⟩ :=
    winds_advance (removes task (List.mem_of_getElem? found)) advanced
  refine ⟨arcs, entries, ?_, online⟩
  intro other inside
  rcases List.mem_or_eq_of_mem_set inside with before | rfl
  · rw [tasks] at before
    exact removes other before
  · exact removal

theorem Winds.prune (removes : ∀ task ∈ s.tasks, task.Removes) {now : Nat}
    (taken : s.step wire config (.pruneExpired now) = some t) : Winds s t := by
  simp only [step, Option.some.injEq] at taken
  subst taken
  exact ⟨rfl, fun _ _ found => (Table.lookup_retain.mp found).1, removes, fun zero => zero⟩

end Gateway

namespace Frontend

variable {M B : Type} {wire : Wire M B} {config : SessionConfig} {gateId : Int} {s t : Frontend B}

/-! ## Whom the shutdown does not wait for -/

/-- `on_disconnected` aborted a worker of the player between two awaits. -/
def TornFor (s : Frontend B) (gid : Gid) : Prop :=
  ∃ conn client, s.clients conn = some client ∧ client.torn = true ∧ client.userId = some gid

/-- No worker was aborted between two awaits. -/
def Untorn (s : Frontend B) : Prop := ∀ conn client, s.clients conn = some client → client.torn = false

/-- The task of a worker that has not ended is in the map, is awaited, or was
    aborted and has not come to an await since. -/
def Attends (s : Frontend B) (conn : Connection) (client : Client) : Prop :=
  ∀ working, client.worker = some working → working ≠ .ended →
    conn ∈ s.workers ∨ conn ∈ s.shutdown.awaited ∨ (client.torn = true ∧ working.awaits = false)

structure Attended (gateId : Int) (s : Frontend B) : Prop where
  tasks : ∀ task ∈ s.gateway.tasks, task.Removes
  arcs : ∀ gid arc, s.gateway.sessions.get gid = some arc → arc < s.gateway.sessions.arcs.length
  flagged : s.shutdown ≠ .uncalled → s.draining = true
  taken : s.shutdown ≠ .uncalled → s.shutdown ≠ .flagged → s.workers = []
  once : s.workers.Nodup ∧ s.shutdown.awaited.Nodup
  spawned : ∀ conn, conn ∈ s.workers ∨ conn ∈ s.shutdown.awaited →
    ∃ client, s.clients conn = some client ∧ client.worker ≠ none
  closing : ∀ workers left, s.shutdown = .closing workers left → ∀ conn ∈ left, conn ∈ workers
  owns : ∀ conn client, s.clients conn = some client →
    ∀ working ∈ client.worker, working.Owns s.gateway.sessions.arcs.length client.userId
  attends : ∀ conn client, s.clients conn = some client → s.Attends conn client
  entries : s.shutdown.emptied = true → ∀ gid arc, s.gateway.sessions.get gid = some arc → s.TornFor gid
  online : s.shutdown = .cleaning ∨ s.shutdown = .returned → s.Untorn → s.gateway.onlineCount = 0
  distinct : ∀ sessions, s.shutdown = .drained sessions → sessions.Nodup
  cleanup : s.cleanup.Sound SHUTDOWN_CLEANUP_CONCURRENCY (cleanupShutdownSession gateId) s.closed
  finished : s.shutdown = .returned → s.cleanup.Finished

theorem attended_new : Attended gateId (new : Frontend B) where
  tasks := by simp [new, Gateway.new]
  arcs := by
    intro gid arc found
    cases found
  flagged := by simp [new]
  taken := by simp [new]
  once := by simp [new, Shutdown.awaited]
  spawned := by simp [new, Shutdown.awaited]
  closing := by simp [new]
  owns := by simp [new]
  attends := by simp [new]
  entries := by simp [new, Shutdown.emptied]
  online := by simp [new]
  distinct := by simp [new]
  cleanup := .start List.nodup_nil
  finished := by simp [new]

/-- The other handlers wind the table down. -/
theorem Attended.gateway (attended : Attended gateId s) {gateway : Gateway B} {leaves : List Leave}
    (winds : s.gateway.Winds gateway) : Attended gateId { s with gateway := gateway, leaves := leaves } :=
  { attended with
    tasks := winds.tasks
    arcs := by
      intro gid arc found
      rw [winds.arcs]
      exact attended.arcs gid arc (winds.entries gid arc found)
    owns := by
      intro conn client found working running
      exact (attended.owns conn client found working running).mono (Nat.le_of_eq winds.arcs.symm)
    entries := fun emptied gid arc found => attended.entries emptied gid arc (winds.entries gid arc found)
    online := fun late untorn => winds.online (attended.online late untorn) }

/-- A step on one client, which may enter the map or leave it. -/
theorem Attended.update (attended : Attended gateId s) {conn : Connection} {client : Client}
    {workers : List Connection} {leaves : List Leave}
    (later : ∀ old, s.clients conn = some old → old.Later client)
    (owns : ∀ working ∈ client.worker, working.Owns s.gateway.sessions.arcs.length client.userId)
    (others : ∀ other, other ≠ conn → (other ∈ workers ↔ other ∈ s.workers))
    (taken : s.shutdown ≠ .uncalled → s.shutdown ≠ .flagged → workers = []) (once : workers.Nodup)
    (spawned : conn ∈ workers → client.worker ≠ none)
    (attends : Attends { s with workers := workers, leaves := leaves } conn client) :
    Attended gateId ({ s with workers := workers, leaves := leaves }.setClient conn client) := by
  let next : Frontend B := { s with workers := workers, leaves := leaves }.setClient conn client
  have self : next.clients conn = some client := Function.update_self ..
  have same : ∀ other, other ≠ conn → next.clients other = s.clients other :=
    fun other differ => Function.update_of_ne differ ..
  have keeps : ∀ other held, s.clients other = some held →
      ∃ after, next.clients other = some after ∧ held.Later after := by
    intro other held isHeld
    by_cases isConn : other = conn
    · subst isConn
      exact ⟨client, self, later held isHeld⟩
    · exact ⟨held, (same other isConn).trans isHeld, .refl held⟩
  have among : ∀ other held, next.clients other = some held →
      (other = conn ∧ held = client) ∨ (other ≠ conn ∧ s.clients other = some held) := by
    intro other held isHeld
    by_cases isConn : other = conn
    · subst isConn
      exact .inl ⟨rfl, (Option.some.inj (self.symm.trans isHeld)).symm⟩
    · exact .inr ⟨isConn, (same other isConn).symm.trans isHeld⟩
  refine { attended with taken := taken, once := ⟨once, attended.once.2⟩, spawned := ?_, owns := ?_, attends := ?_,
                         entries := ?_, online := ?_ }
  · intro other isListed
    by_cases isConn : other = conn
    · subst isConn
      refine ⟨client, self, ?_⟩
      rcases isListed with inMap | awaited
      · exact spawned inMap
      · obtain ⟨old, isOld, worker⟩ := attended.spawned other (.inr awaited)
        exact (later old isOld).worker worker
    · obtain ⟨held, isHeld, worker⟩ := attended.spawned other (isListed.imp_left (others other isConn).mp)
      exact ⟨held, (same other isConn).trans isHeld, worker⟩
  · intro other held isHeld
    rcases among other held isHeld with ⟨rfl, rfl⟩ | ⟨_, before⟩
    · exact owns
    · exact attended.owns other held before
  · intro other held isHeld
    rcases among other held isHeld with ⟨rfl, rfl⟩ | ⟨isConn, before⟩
    · exact attends
    · intro working running alive
      exact (attended.attends other held before working running alive).imp_left (others other isConn).mpr
  · intro emptied gid arc entry
    obtain ⟨other, held, isHeld, torn, user⟩ := attended.entries emptied gid arc entry
    obtain ⟨after, isAfter, later⟩ := keeps other held isHeld
    exact ⟨other, after, isAfter, later.torn torn, later.userId gid user⟩
  · intro late untorn
    apply attended.online late
    intro other held isHeld
    obtain ⟨after, isAfter, later⟩ := keeps other held isHeld
    by_contra torn
    have isTorn := later.torn (by simpa using torn)
    rw [untorn other after isAfter] at isTorn
    cases isTorn

theorem Attended.setClient (attended : Attended gateId s) {conn : Connection} {old client : Client}
    (found : s.clients conn = some old) (later : old.Later client)
    (owns : ∀ working ∈ client.worker, working.Owns s.gateway.sessions.arcs.length client.userId)
    (attends : s.Attends conn client) : Attended gateId (s.setClient conn client) := by
  refine attended.update ?_ owns (fun _ _ => .rfl) attended.taken attended.once.1 ?_ attends
  · intro held isHeld
    obtain rfl := Option.some.inj (found.symm.trans isHeld)
    exact later
  · intro inMap
    obtain ⟨held, isHeld, worker⟩ := attended.spawned conn (.inl inMap)
    obtain rfl := Option.some.inj (found.symm.trans isHeld)
    exact later.worker worker

/-- A task that has not ended after the drain was aborted between two awaits. -/
theorem Attended.torn (attended : Attended gateId s) (emptied : s.shutdown.emptied = true) {conn : Connection}
    {client : Client} {working : Working} (found : s.clients conn = some client)
    (running : client.worker = some working) (alive : working ≠ .ended) :
    client.torn = true ∧ working.awaits = false := by
  have none : s.workers = [] := by
    apply attended.taken
    · intro same
      simp [same, Shutdown.emptied] at emptied
    · intro same
      simp [same, Shutdown.emptied] at emptied
  have unawaited : s.shutdown.awaited = [] := by
    cases phase : s.shutdown <;> simp [phase, Shutdown.emptied, Shutdown.awaited] at emptied ⊢
  rcases attended.attends conn client found working running alive with inMap | awaited | torn
  · simp [none] at inMap
  · simp [unawaited] at awaited
  · exact torn

/-- A worker moves on. -/
theorem Attended.moveTo (attended : Attended gateId s) {conn : Connection} {old client : Client}
    {working next : Working} (found : s.clients conn = some old) (running : old.worker = some working)
    (alive : working ≠ .ended) (torn : client.torn = old.torn)
    (user : ∀ gid, old.userId = some gid → client.userId = some gid)
    (owns : next.Owns s.gateway.sessions.arcs.length client.userId) :
    Attended gateId (s.setClient conn (client.moveTo next)) := by
  apply attended.setClient found
  · exact ⟨fun isTorn => torn.trans isTorn, user, fun _ => by simp [Client.moveTo]⟩
  · intro after isAfter
    simp only [Client.moveTo, Option.mem_def, Option.some.injEq] at isAfter
    subst isAfter
    split
    · trivial
    · exact owns
  · intro after isAfter running'
    have before := attended.attends conn old found working running alive
    simp only [Client.moveTo, Option.some.injEq] at isAfter
    split at isAfter
    · exact absurd isAfter.symm running'
    · next goesOn =>
      subst isAfter
      rcases before with inMap | awaited | ⟨isTorn, _⟩
      · exact .inl inMap
      · exact .inr (.inl awaited)
      · rw [← torn] at isTorn
        exact .inr (.inr ⟨isTorn, by simpa [isTorn] using goesOn⟩)

theorem Attended.setSessions (attended : Attended gateId s) {sessions : ClientSessions B}
    (grows : s.gateway.sessions.arcs.length ≤ sessions.arcs.length)
    (arcs : ∀ gid arc, sessions.get gid = some arc → arc < sessions.arcs.length)
    (entries : s.shutdown.emptied = true → ∀ gid arc, sessions.get gid = some arc → s.TornFor gid) :
    Attended gateId (s.setSessions sessions) :=
  { attended with
    arcs := arcs
    owns := by
      intro conn client found working running
      exact (attended.owns conn client found working running).mono grows
    entries := entries }

/-- A step of the counter. -/
theorem Attended.setOnline (attended : Attended gateId s) {onlineCount : Int}
    (online : s.shutdown = .cleaning ∨ s.shutdown = .returned → s.Untorn → onlineCount = 0) :
    Attended gateId { s with gateway := { s.gateway with onlineCount := onlineCount } } :=
  { attended with online := online }

theorem Attended.work (attended : Attended gateId s) {conn : Connection} {client : Client} {bound : Bool}
    {now : Nat} (found : s.clients conn = some client) (taken : s.work config conn client bound now = some t) :
    Attended gateId t := by
  have owns := attended.owns conn client found
  unfold Frontend.work at taken
  split at taken
  · next request running =>
    have unbound : client.userId = none := owns _ running
    split at taken <;> cases taken
    · exact attended.moveTo found running (by simp) rfl (by simp [unbound]) rfl
    · exact attended.moveTo found running (by simp) rfl (fun _ => id) trivial
  · next request running =>
    split at taken <;> cases taken
    · exact attended.moveTo found running (by simp) rfl (fun _ => id) trivial
    · have named : client.userId = some request.gid := owns _ running
      exact attended.moveTo found running (by simp) rfl (fun _ => id) named
  · next gid routes seq running =>
    cases taken
    have entered : Attended gateId (s.setSessions (s.gateway.sessions.installLogin gid conn routes seq).2) := by
      have among : ∀ other arc, (s.gateway.sessions.installLogin gid conn routes seq).2.get other = some arc →
          (other = gid ∧ arc = s.gateway.sessions.arcs.length) ∨ s.gateway.sessions.get other = some arc := by
        intro other arc entry
        by_cases same : other = gid
        · subst same
          exact .inl ⟨rfl, by simpa [ClientSessions.installLogin, ClientSessions.get, eq_comm] using entry⟩
        · exact .inr (by simpa [ClientSessions.installLogin, ClientSessions.get, same] using entry)
      have grows : (s.gateway.sessions.installLogin gid conn routes seq).2.arcs.length
          = s.gateway.sessions.arcs.length + 1 := by
        simp [ClientSessions.installLogin]
      apply attended.setSessions (by omega)
      · intro other arc entry
        rw [grows]
        rcases among other arc entry with ⟨_, rfl⟩ | before
        · omega
        · exact Nat.lt_succ_of_lt (attended.arcs other arc before)
      · intro emptied other arc entry
        rcases among other arc entry with ⟨rfl, _⟩ | before
        · exact ⟨conn, client, found, (attended.torn emptied found running (by simp)).1, owns _ running⟩
        · exact attended.entries emptied other arc before
    apply entered.moveTo found running (by simp) rfl (fun _ => id)
    split <;> trivial
  · next gid previous seq ack running =>
    split at taken
    · cases taken
      exact attended.moveTo found running (by simp) rfl (fun _ => id) trivial
    · next arc entry =>
      cases taken
      have named : client.userId = some gid := owns _ running
      exact attended.moveTo found running (by simp) rfl (fun _ => id) ⟨named, attended.arcs gid arc entry⟩
  · next gid arc previous seq ack running =>
    obtain ⟨session, _, rfl⟩ := Option.map_eq_some_iff.mp taken
    have stored : Attended gateId (s.setSessions (s.gateway.sessions.store arc
        (session.completeReconnect previous conn seq ack now config).2)) :=
      attended.setSessions (by simp [ClientSessions.store])
        (fun gid held entry => by simpa [ClientSessions.store] using attended.arcs gid held entry) attended.entries
    simp only
    split
    · apply stored.moveTo found running (by simp) rfl (fun _ => id)
      split <;> trivial
    · exact stored.moveTo found running (by simp) rfl (fun _ => id) trivial
  · next running =>
    cases taken
    refine (attended.setOnline ?_).moveTo found running (by simp) rfl (fun _ => id) trivial
    -- after the drain only a torn worker can still count
    intro late untorn
    have emptied : s.shutdown.emptied = true := by
      rcases late with late | late <;> simp [late, Shutdown.emptied]
    have isTorn := (attended.torn emptied found running (by simp)).1
    rw [untorn conn client found] at isTorn
    cases isTorn
  · cases taken

/-- A connection opens before `draining` is set, and gets a worker, or later and
    is closed. -/
theorem Attended.connect (attended : Attended gateId s) {conn : Connection} (isNew : s.clients conn = none) :
    Attended gateId (s.setClient conn ⟨none, true, false, none, false⟩)
    ∧ (s.draining = false → Attended gateId
      ({ s with workers := conn :: s.workers }.setClient conn ⟨none, false, false, some .receive, false⟩)) := by
  have later : ∀ old client, s.clients conn = some old → old.Later client := by
    intro old client found
    rw [isNew] at found
    cases found
  have unlisted : conn ∉ s.workers := by
    intro inMap
    obtain ⟨client, found, _⟩ := attended.spawned conn (.inl inMap)
    rw [isNew] at found
    cases found
  constructor
  · refine attended.update (fun old => later old _) ?_ (fun _ _ => .rfl) attended.taken attended.once.1 ?_ ?_
    · simp
    · intro inMap
      exact absurd inMap unlisted
    · intro working running
      cases running
  · intro serving
    have uncalled : s.shutdown = .uncalled := by
      by_contra called
      rw [attended.flagged called] at serving
      cases serving
    have once : (conn :: s.workers).Nodup := List.nodup_cons.mpr ⟨unlisted, attended.once.1⟩
    refine attended.update (fun old => later old _) ?_ ?_ ?_ once ?_ ?_
    · simp [Working.Owns]
    · intro other differ
      simp [differ]
    · intro called
      exact absurd uncalled called
    · simp
    · intro working _ _
      exact .inl List.mem_cons_self

/-- `on_disconnected` ends a task that awaits, and marks one that does not. -/
theorem Attended.disconnect (attended : Attended gateId s) {conn : Connection} {client : Client} {leave : Leave}
    (found : s.clients conn = some client) :
    Attended gateId ({ s with workers := s.workers.erase conn, leaves := s.leaves ++ [leave] }.setClient conn
      { (if conn ∈ s.workers then client.abort else client) with isClosed := true, disconnected := true }) := by
  -- the task ended, was not in the map, or is torn
  have left : ∃ next : Client, (if conn ∈ s.workers then client.abort else client) = next ∧ client.Later next
      ∧ ∀ working ∈ next.worker, working = .ended ∨ (working ∈ client.worker ∧ next.userId = client.userId
        ∧ (conn ∈ s.workers → next.torn = true ∧ working.awaits = false)) := by
    by_cases inMap : conn ∈ s.workers
    · refine ⟨client.abort, if_pos inMap, client.abort_cases.1, ?_⟩
      intro working running
      rcases client.abort_cases.2 with ended | ⟨torn, between⟩
      · exact .inl (ended working running)
      · rw [torn] at running ⊢
        exact .inr ⟨running, rfl, fun _ => ⟨rfl, between working running⟩⟩
    · refine ⟨client, if_neg inMap, .refl client, ?_⟩
      intro working running
      exact .inr ⟨running, rfl, fun isIn => absurd isIn inMap⟩
  obtain ⟨next, isNext, later, runs⟩ := left
  rw [isNext]
  refine attended.update ?_ ?_ ?_ ?_ (attended.once.1.erase conn) ?_ ?_
  · intro old isOld
    obtain rfl := Option.some.inj (found.symm.trans isOld)
    exact ⟨later.torn, later.userId, later.worker⟩
  · intro working running
    rcases runs working running with rfl | ⟨before, user, _⟩
    · trivial
    · show working.Owns _ next.userId
      rw [user]
      exact attended.owns conn client found working before
  · intro other differ
    exact List.mem_erase_of_ne differ
  · intro called notFlagged
    simp [attended.taken called notFlagged]
  · intro inMap
    exact absurd inMap attended.once.1.not_mem_erase
  · intro working running alive
    rcases runs working running with ended | ⟨before, _, torn⟩
    · exact absurd ended alive
    · rcases attended.attends conn client found working before alive with inMap | awaited | ⟨isTorn, between⟩
      · exact .inr (.inr (torn inMap))
      · exact .inr (.inl awaited)
      · exact .inr (.inr ⟨later.torn isTorn, between⟩)

/-- The shutdown goes on with the workers that it took. -/
theorem Attended.phase (attended : Attended gateId s) {phase : Shutdown} (called : s.shutdown ≠ .uncalled)
    (taken : s.shutdown ≠ .flagged) (filled : phase.emptied = false)
    (fewer : phase.awaited.Sublist s.shutdown.awaited)
    (closing : ∀ workers left, phase = .closing workers left → ∀ conn ∈ left, conn ∈ workers)
    (ended : ∀ conn client, s.clients conn = some client → conn ∈ s.shutdown.awaited →
      client.worker = some .ended ∨ conn ∈ phase.awaited) : Attended gateId { s with shutdown := phase } :=
  { attended with
    flagged := fun _ => attended.flagged called
    taken := fun _ _ => attended.taken called taken
    once := ⟨attended.once.1, attended.once.2.sublist fewer⟩
    spawned := fun conn isListed => attended.spawned conn (isListed.imp_right fun inside => fewer.subset inside)
    closing := closing
    attends := by
      intro conn client found working running alive
      rcases attended.attends conn client found working running alive with inMap | before | torn
      · exact .inl inMap
      · rcases ended conn client found before with isEnded | still
        · rw [running] at isEnded
          exact absurd (Option.some.inj isEnded) alive
        · exact .inr (.inl still)
      · exact .inr (.inr torn)
    entries := by simp [filled]
    online := by
      rintro (rfl | rfl) <;> cases filled
    distinct := by
      rintro sessions rfl
      cases filled
    finished := by
      rintro rfl
      cases filled }

/-- The sessions of the table go into the cleanup, and their connections are
    closed. -/
theorem Attended.drain (attended : Attended gateId s) {sessions : List ClosingSession}
    (awaiting : s.shutdown = .awaiting []) (all : sessions.Perm s.gateway.sessions.closing) :
    Attended gateId { s with
      gateway := { s.gateway with sessions := s.gateway.sessions.drain }
      clients := fun conn => (s.clients conn).map fun client =>
        if conn ∈ s.gateway.sessions.draining then client.close else client
      shutdown := .drained sessions } := by
  let close : Connection → Client → Client := fun conn client =>
    if conn ∈ s.gateway.sessions.draining then client.close else client
  have same : ∀ conn client, (close conn client).worker = client.worker ∧ (close conn client).torn = client.torn
      ∧ (close conn client).userId = client.userId := by
    intro conn client
    simp only [close]
    split <;> exact ⟨rfl, rfl, rfl⟩
  have taken : s.workers = [] := attended.taken (by simp [awaiting]) (by simp [awaiting])
  refine { attended with
    arcs := ?_, flagged := fun _ => attended.flagged (by simp [awaiting]), taken := fun _ _ => taken
    once := ⟨attended.once.1, List.nodup_nil⟩, spawned := ?_, closing := by simp, owns := ?_, attends := ?_
    entries := ?_, online := by simp, distinct := ?_, finished := by simp }
  · intro gid arc found
    cases found
  · simp [taken, Shutdown.awaited]
  · intro conn client found
    obtain ⟨old, isOld, rfl⟩ := Option.map_eq_some_iff.mp found
    obtain ⟨worker, _, user⟩ := same conn old
    rw [worker, user]
    intro working running
    exact (attended.owns conn old isOld working running).mono (by simp [ClientSessions.drain])
  · intro conn client found working running alive
    obtain ⟨old, isOld, rfl⟩ := Option.map_eq_some_iff.mp found
    obtain ⟨worker, torn, _⟩ := same conn old
    rw [worker] at running
    rw [torn]
    rcases attended.attends conn old isOld working running alive with inMap | awaited | isTorn
    · exact .inl inMap
    · simp [awaiting, Shutdown.awaited] at awaited
    · exact .inr (.inr isTorn)
  · intro _ gid arc found
    cases found
  · intro others isSessions
    obtain rfl := Shutdown.drained.inj isSessions
    exact all.nodup_iff.mpr s.gateway.sessions.nodup_closing

/-- After the drain nothing is awaited, so the rest changes the phase alone. -/
theorem Attended.later (attended : Attended gateId s) (emptied : s.shutdown.emptied = true) {phase : Shutdown}
    {onlineCount : Int} {closed : List ClosingSession} {cleanup : FanOut ClosingSession Cleanup}
    (after : phase = .cleaning ∨ phase = .returned)
    (online : s.Untorn → onlineCount = 0)
    (sound : cleanup.Sound SHUTDOWN_CLEANUP_CONCURRENCY (cleanupShutdownSession gateId) closed)
    (finished : phase = .returned → cleanup.Finished) :
    Attended gateId { s with
      gateway := { s.gateway with onlineCount := onlineCount }
      shutdown := phase
      closed := closed
      cleanup := cleanup } := by
  have called : s.shutdown ≠ .uncalled ∧ s.shutdown ≠ .flagged ∧ s.shutdown.awaited = [] := by
    cases phase : s.shutdown <;> simp [phase, Shutdown.emptied, Shutdown.awaited] at emptied ⊢
  have unawaited : phase.awaited = [] ∧ phase.emptied = true := by
    rcases after with rfl | rfl <;> exact ⟨rfl, rfl⟩
  have attends := attended.attends
  have spawned := attended.spawned
  simp only [Attends, called.2.2, ← unawaited.1] at attends spawned
  refine { attended with
    flagged := fun _ => attended.flagged called.1, taken := fun _ _ => attended.taken called.1 called.2.1
    once := ⟨attended.once.1, by simp [unawaited.1]⟩, spawned := spawned, closing := ?_, attends := attends
    entries := fun _ => attended.entries emptied, online := fun _ => online, distinct := ?_, cleanup := sound
    finished := finished }
  · rintro workers left rfl
    rcases after with same | same <;> cases same
  · rintro sessions rfl
    rcases after with same | same <;> cases same

theorem Attended.step (attended : Attended gateId s) {l : Label M}
    (taken : s.step wire config gateId l = some t) : Attended gateId t := by
  cases l with
  | onConnected conn =>
    simp only [Frontend.step] at taken
    split at taken
    · next isNew =>
      obtain ⟨refused, admitted⟩ := attended.connect isNew
      split at taken <;> cases taken
      · exact refused
      · next serving => exact admitted (by simpa using serving)
    · cases taken
  | onDisconnected conn =>
    obtain ⟨client, found, moved⟩ := Option.bind_eq_some_iff.mp taken
    split at moved <;> cases moved
    exact attended.disconnect found
  | leave i =>
    obtain ⟨leave, _, moved⟩ := Option.bind_eq_some_iff.mp taken
    have still : s.gateway.Winds s.gateway := ⟨rfl, fun _ _ found => found, attended.tasks, id⟩
    cases leave with
    | finished => cases moved
    | looking conn =>
      simp only [Frontend.leave, Option.some.injEq] at moved
      subst moved
      exact attended.gateway still
    | spawned conn =>
      simp only [Frontend.leave] at moved
      split at moved <;> cases moved
      · exact attended.gateway still
      · next gid _ =>
        apply attended.gateway
        cases fetched : s.gateway.fetch gid (.disconnect gid · conn.sessionId) with
        | none => exact still
        | some gateway =>
          apply Gateway.Winds.fetch attended.tasks _ fetched
          intro arc
          trivial
  | close conn =>
    obtain ⟨client, found, rfl⟩ := Option.map_eq_some_iff.mp taken
    exact attended.setClient found ⟨id, fun _ => id, id⟩ (attended.owns conn client found)
      (attended.attends conn client found)
  | receive conn =>
    obtain ⟨client, found, moved⟩ := Option.bind_eq_some_iff.mp taken
    split at moved <;> cases moved
    next running =>
      apply attended.moveTo found running (by simp) rfl (fun _ => id)
      split <;> trivial
  | hangUp conn =>
    obtain ⟨client, found, moved⟩ := Option.bind_eq_some_iff.mp taken
    split at moved <;> cases moved
    next guard => exact attended.moveTo found guard.1 (by simp) rfl (fun _ => id) trivial
  | bind conn request =>
    obtain ⟨client, found, moved⟩ := Option.bind_eq_some_iff.mp taken
    split at moved <;> cases moved
    next guard => exact attended.moveTo found guard.1 (by simp) rfl (fun _ => id) guard.2
  | answer conn =>
    obtain ⟨client, found, moved⟩ := Option.bind_eq_some_iff.mp taken
    split at moved <;> cases moved
    next running => exact attended.moveTo found running (by simp) rfl (fun _ => id) trivial
  | work conn bound now =>
    obtain ⟨client, found, worked⟩ := Option.bind_eq_some_iff.mp taken
    exact attended.work found worked
  | kick gid sessionId =>
    obtain ⟨gateway, fetched, rfl⟩ := Option.map_eq_some_iff.mp taken
    apply attended.gateway
    apply Gateway.Winds.fetch attended.tasks _ fetched
    intro arc
    trivial
  | logout gid sessionId seq ack =>
    obtain ⟨gateway, fetched, rfl⟩ := Option.map_eq_some_iff.mp taken
    apply attended.gateway
    apply Gateway.Winds.fetch attended.tasks _ fetched
    intro arc
    trivial
  | pruneExpired now =>
    simp only [Frontend.step, Option.map_eq_some_iff] at taken
    obtain ⟨gateway, pruned, rfl⟩ := taken
    exact attended.gateway (.prune attended.tasks pruned)
  | tick i message now =>
    obtain ⟨gateway, moved, rfl⟩ := Option.map_eq_some_iff.mp taken
    exact attended.gateway (.tick attended.tasks moved)
  | shutdown =>
    simp only [Frontend.step] at taken
    split at taken <;> cases taken
    next uncalled =>
      have attends := attended.attends
      have spawned := attended.spawned
      simp only [Attends, uncalled, Shutdown.awaited] at attends spawned
      exact { attended with
        flagged := fun _ => rfl, taken := by simp, once := ⟨attended.once.1, List.nodup_nil⟩, spawned := spawned
        closing := by simp, attends := attends, entries := by simp [Shutdown.emptied], online := by simp
        distinct := by simp, finished := by simp }
  | takeWorkers workers =>
    simp only [Frontend.step] at taken
    split at taken <;> cases taken
    next guard =>
      obtain ⟨flagged, all⟩ := guard
      refine { attended with
        flagged := fun _ => attended.flagged (by simp [flagged]), taken := fun _ _ => rfl
        once := ⟨List.nodup_nil, all.nodup_iff.mpr attended.once.1⟩, spawned := ?_, closing := ?_, attends := ?_
        entries := by simp [Shutdown.emptied], online := by simp, distinct := by simp, finished := by simp }
      · intro conn isListed
        apply attended.spawned conn
        exact .inl (by simpa [Shutdown.awaited, all.mem_iff] using isListed)
      · rintro _ _ ⟨⟩ conn inside
        exact inside
      · intro conn client found working running alive
        rcases attended.attends conn client found working running alive with inMap | awaited | torn
        · exact .inr (.inl (all.mem_iff.mpr inMap))
        · simp [flagged, Shutdown.awaited] at awaited
        · exact .inr (.inr torn)
  | closeNext =>
    simp only [Frontend.step] at taken
    split at taken
    · next workers conn left closing =>
      obtain ⟨client, found, rfl⟩ := Option.map_eq_some_iff.mp taken
      have moved : Attended gateId { s with shutdown := .closing workers left } := by
        apply attended.phase (by simp [closing]) (by simp [closing]) rfl
        · simp [closing, Shutdown.awaited]
        · rintro _ _ ⟨⟩ other inside
          exact attended.closing workers (conn :: left) closing other (List.mem_cons_of_mem _ inside)
        · intro other _ _ awaited
          exact .inr (by simpa [closing, Shutdown.awaited] using awaited)
      exact moved.setClient found ⟨id, fun _ => id, id⟩ (moved.owns conn client found)
        (moved.attends conn client found)
    · next workers closing =>
      cases taken
      apply attended.phase (by simp [closing]) (by simp [closing]) rfl
      · simp [closing, Shutdown.awaited]
      · simp
      · intro other _ _ awaited
        exact .inr (by simpa [closing, Shutdown.awaited] using awaited)
    · cases taken
  | awaitNext =>
    simp only [Frontend.step] at taken
    split at taken
    · next conn left awaiting =>
      obtain ⟨client, found, moved⟩ := Option.bind_eq_some_iff.mp taken
      split at moved <;> cases moved
      next ended =>
        apply attended.phase (by simp [awaiting]) (by simp [awaiting]) rfl
        · simp [awaiting, Shutdown.awaited]
        · simp
        · intro other held isHeld awaited
          simp only [awaiting, Shutdown.awaited, List.mem_cons] at awaited
          rcases awaited with rfl | later
          · obtain rfl := Option.some.inj (found.symm.trans isHeld)
            exact .inl ended
          · exact .inr later
    · cases taken
  | drain sessions =>
    simp only [Frontend.step] at taken
    split at taken <;> cases taken
    next guard => exact attended.drain guard.1 guard.2
  | resetOnline =>
    simp only [Frontend.step] at taken
    split at taken
    · next sessions drained =>
      cases taken
      exact attended.later (by simp [drained, Shutdown.emptied]) (.inl rfl) (fun _ => rfl)
        (.start (attended.distinct sessions drained)) (by simp)
    · cases taken
  | cleanup l =>
    simp only [Frontend.step] at taken
    split at taken
    · next cleaning =>
      obtain ⟨cleanup, moved, rfl⟩ := Option.map_eq_some_iff.mp taken
      exact { attended with cleanup := attended.cleanup.step moved, finished := by simp [cleaning] }
    · cases taken
  | finish =>
    simp only [Frontend.step] at taken
    split at taken <;> cases taken
    next guard =>
      exact attended.later (by simp [guard.1, Shutdown.emptied]) (.inr rfl) (attended.online (.inl guard.1))
        attended.cleanup (fun _ => guard.2)

theorem attended_reach {C : Frontend B → Label M → Prop} {config : ValidSessionConfig}
    (reached : (system wire config gateId).Reach C s) : Attended gateId s := by
  refine reached.inv ?_ ?_
  · rintro s rfl
    exact attended_new
  · intro s l t attended _ taken
    exact attended.step taken

/-! ## What a shutdown leaves -/

/-- At most `SHUTDOWN_CLEANUP_CONCURRENCY` cleanups run at a time.  When
    `shutdown` has returned, no worker is in the map, and every session that was
    drained had its notice sent and its Redis entry cleared, once and in this
    order.  A player is left in the table only if a worker of that player was
    aborted between two awaits; where none was, the table is empty, the counter is
    zero and every worker has ended. -/
theorem shutdown_leaves_nothing {config : ValidSessionConfig}
    (reached : (system wire config gateId).Reach System.Any s) :
    s.cleanup.running.length ≤ SHUTDOWN_CLEANUP_CONCURRENCY
    ∧ (s.shutdown = .returned →
      s.workers = []
      ∧ (∀ session ∈ s.closed, s.cleanup.madeFor session = cleanupShutdownSession gateId session)
      ∧ (∀ made ∈ s.cleanup.made, made.1 ∈ s.closed)
      ∧ (∀ gid arc, s.gateway.sessions.get gid = some arc → s.TornFor gid)
      ∧ (s.Untorn → s.gateway.sessions.players = ∅ ∧ s.gateway.onlineCount = 0
        ∧ ∀ conn client, s.clients conn = some client → ∀ working ∈ client.worker, working = .ended)) := by
  have attended := attended_reach reached
  refine ⟨attended.cleanup.bounded, ?_⟩
  intro returned
  have emptied : s.shutdown.emptied = true := by simp [returned, Shutdown.emptied]
  refine ⟨attended.taken (by simp [returned]) (by simp [returned]), ?_, attended.cleanup.mine,
    attended.entries emptied, ?_⟩
  · intro session isClosed
    exact attended.cleanup.finished (attended.finished returned) isClosed
  · intro untorn
    refine ⟨?_, attended.online (.inr returned) untorn, ?_⟩
    · apply AList.ext
      apply List.eq_nil_iff_forall_not_mem.mpr
      rintro ⟨gid, arc⟩ inside
      obtain ⟨conn, client, found, torn, _⟩ := attended.entries emptied gid arc (AList.mem_lookup_iff.mpr inside)
      rw [untorn conn client found] at torn
      cases torn
    · intro conn client found working running
      by_contra alive
      have isTorn := (attended.torn emptied found running alive).1
      rw [untorn conn client found] at isTorn
      cases isTorn

/-- A player logs in, and the Gate shuts down. -/
def loginAndStop : List (Label Unit) :=
  [.onConnected ⟨7⟩, .receive ⟨7⟩, .bind ⟨7⟩ (.login 1 ⟨1, 2⟩ 0), .work ⟨7⟩ true 0, .work ⟨7⟩ true 0,
    .work ⟨7⟩ true 0, .work ⟨7⟩ true 0, .answer ⟨7⟩, .shutdown, .takeWorkers [⟨7⟩], .closeNext, .closeNext,
    .hangUp ⟨7⟩, .awaitNext, .drain [⟨1, 7, ⟨1, 2⟩⟩], .resetOnline, .cleanup .spawn, .cleanup (.call 0),
    .cleanup (.call 0), .cleanup (.join 0), .finish]

theorem loginAndStop_leaves_nothing :
    ∃ s : Frontend Unit, s.shutdown = .returned ∧ s.workers = []
      ∧ s.cleanup.madeFor ⟨1, 7, ⟨1, 2⟩⟩ = [.sendTo 1 ⟨1, 9, 7⟩, .clearGateBySession 1 7] := by
  have run : ∃ s, System.follow System.Any (step Gateway.blankWire SessionConfig.HARD_LIMITS 9) new
      loginAndStop = some s ∧ s.shutdown = .returned ∧ ⟨1, 7, ⟨1, 2⟩⟩ ∈ s.closed := by
    decide +kernel
  obtain ⟨s, followed, returned, isClosed⟩ := run
  have reached : (system Gateway.blankWire .hardLimits 9).Reach System.Any s :=
    System.reach_of_follow rfl followed
  obtain ⟨workers, cleaned, _⟩ := (shutdown_leaves_nothing reached).2 returned
  exact ⟨s, returned, workers, cleaned _ isClosed⟩

end Frontend

end Xkk.Gate
