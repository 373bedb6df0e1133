import Xkk.Gate.Entries

/-! # Connections that close while they are bound

The end of `handle_login` and of `handle_reconnect` runs without an await: it
binds the player to the connection, looks whether the connection is closed, and
puts the connection into the table.  A close sets the flag and then runs
`on_disconnected` once, which spawns the task that takes the connection out of
the table again.

The flag is read before the table is written.  `InTime` says how far the spawned
task may have come at that moment.
-/

namespace Xkk.Gate

open Xkk.Lib

/-- How far the `disconnect` of a connection has come. -/
inductive Teardown where
  | waiting            -- `on_disconnected` has not run
  | spawned
  | locking (arc : Nat)
  | finished
deriving DecidableEq, Repr

/-- The spawned task has still to lock the session under `arc`. -/
def Teardown.Ahead (arc : Nat) : Teardown → Prop
  | .waiting | .spawned => True
  | .locking held => held = arc
  | .finished => False

instance (arc : Nat) (teardown : Teardown) : Decidable (teardown.Ahead arc) :=
  match teardown with
  | .waiting | .spawned => .isTrue trivial
  | .locking held => inferInstanceAs (Decidable (held = arc))
  | .finished => .isFalse id

structure Socket where
  userId : Option Gid
  isClosed : Bool
  teardown : Teardown
deriving DecidableEq, Repr

def Socket.new : Socket := ⟨none, false, .waiting⟩

inductive BindRequest where
  | login (gid : Gid) (routes : Routes) (seq : UInt32)
  | reconnect (gid : Gid) (previous : SessionId) (seq ack : UInt32)
deriving DecidableEq, Repr

def BindRequest.gid : BindRequest → Gid
  | .login gid _ _ | .reconnect gid _ _ _ => gid

/-- Where the worker of a connection stands in the part without an await. -/
inductive Binding where
  | idle
  | bind (request : BindRequest)
  | check (request : BindRequest)
  | enter (request : BindRequest)        -- the connection was open
  | complete (gid : Gid) (arc : Nat) (previous : SessionId) (seq ack : UInt32)
deriving DecidableEq, Repr

structure Closing (B : Type) where
  sessions : ClientSessions B
  sockets : Connection → Socket
  workers : Connection → Binding
  kicks : List Kick

namespace Closing

variable {M B : Type}

def new : Closing B := ⟨.new, fun _ => .new, fun _ => .idle, []⟩

inductive Label (M : Type) where
  | handle (conn : Connection) (request : BindRequest)
  | work (conn : Connection) (bound : Bool) (now : Nat)    -- `bound` is what `bind_user` answers
  | close (conn : Connection)
  | onDisconnected (conn : Connection)
  | disconnect (conn : Connection) (now : Nat)
  | kick (gid : Gid) (sessionId : SessionId)
  | advanceKick (i : Nat) (message : M) (now : Nat)
  | invalidate (gid : Gid) (sessionId : SessionId)
  | pruneExpired (now : Nat)

def setSocket (s : Closing B) (conn : Connection) (socket : Socket) : Closing B :=
  { s with sockets := Function.update s.sockets conn socket }

def setWorker (s : Closing B) (conn : Connection) (binding : Binding) : Closing B :=
  { s with workers := Function.update s.workers conn binding }

def close (s : Closing B) (conn : Connection) : Closing B :=
  s.setSocket conn { s.sockets conn with isClosed := true }

/-- The next section of the handler. -/
def work (config : SessionConfig) (s : Closing B) (conn : Connection) (bound : Bool) (now : Nat) :
    Option (Closing B) :=
  match s.workers conn with
  | .idle => none
  | .bind request =>
    if bound then
      some ((s.setSocket conn { s.sockets conn with userId := some request.gid }).setWorker conn (.check request))
    else some ((s.close conn).setWorker conn .idle)
  | .check request =>
    if (s.sockets conn).isClosed then some ((s.close conn).setWorker conn .idle)
    else some (s.setWorker conn (.enter request))
  | .enter (.login gid routes seq) =>
    some ({ s with sessions := (s.sessions.installLogin gid conn routes seq).2 }.setWorker conn .idle)
  | .enter (.reconnect gid previous seq ack) =>
    match s.sessions.get gid with
    | none => some ((s.close conn).setWorker conn .idle)
    | some arc => some (s.setWorker conn (.complete gid arc previous seq ack))
  | .complete _ arc previous seq ack =>
    s.sessions.arcs[arc]?.map fun session =>
      let (result, session) := session.completeReconnect previous conn seq ack now config
      let s := { s with sessions := s.sessions.store arc session }
      match result with
      | .ok _ => s.setWorker conn .idle
      | .error _ => (s.close conn).setWorker conn .idle

/-- The next section of the spawned `disconnect`.  A bound `user_id` does not
    change, so it is read together with the map. -/
def disconnect (s : Closing B) (conn : Connection) (now : Nat) : Option (Closing B) :=
  match (s.sockets conn).teardown with
  | .waiting | .finished => none
  | .spawned =>
    match (s.sockets conn).userId.bind s.sessions.get with
    | none => some (s.setSocket conn { s.sockets conn with teardown := .finished })
    | some arc => some (s.setSocket conn { s.sockets conn with teardown := .locking arc })
  | .locking arc =>
    s.sessions.arcs[arc]?.map fun session =>
      { s with sessions := s.sessions.store arc (session.disconnect conn.sessionId now).2 }.setSocket conn
        { s.sockets conn with teardown := .finished }

def step (wire : Wire M B) (config : SessionConfig) (s : Closing B) : Label M → Option (Closing B)
  | .handle conn request =>
    -- one worker serves the connection until `on_disconnected` aborts it, and it
    -- turns away a connection that is bound already
    if s.workers conn = .idle ∧ (s.sockets conn).userId = none ∧ (s.sockets conn).teardown = .waiting then
      some (s.setWorker conn (.bind request))
    else none
  | .work conn bound now => s.work config conn bound now
  | .close conn => some (s.close conn)
  | .onDisconnected conn =>
    if (s.sockets conn).isClosed = true ∧ (s.sockets conn).teardown = .waiting then
      some (s.setSocket conn { s.sockets conn with teardown := .spawned })
    else none
  | .disconnect conn now => s.disconnect conn now
  | .kick gid sessionId =>
    (s.sessions.get gid).map fun arc => { s with kicks := s.kicks ++ [.lock gid arc sessionId] }
  | .advanceKick i message now =>
    s.kicks[i]?.bind fun kick =>
      (s.sessions.advanceKick wire config message now kick).map fun (sessions, closing, next) =>
        let s := { s with sessions := sessions, kicks := s.kicks.set i next }
        match closing with
        | none => s
        | some conn => s.close conn
  | .invalidate gid sessionId => some { s with sessions := (s.sessions.invalidate gid sessionId).2 }
  | .pruneExpired now => some { s with sessions := s.sessions.pruneExpired now config }

def system (wire : Wire M B) (config : ValidSessionConfig) : System (Closing B) (Label M) :=
  .ofFun (· = .new) (step wire config.toSessionConfig)

/-- Once the close, the spawned task and the handler have finished, the connection
    is bound to no session of the table. -/
def NoneDead (s : Closing B) : Prop :=
  ∀ conn, (s.sockets conn).isClosed = true → (s.sockets conn).teardown = .finished → s.workers conn = .idle →
    ∀ gid arc, ¬ s.sessions.Bound gid arc conn

/-- When the handler writes its connection into the table, the task that takes it
    out again has still to lock that session. -/
def InTime (config : SessionConfig) (s : Closing B) : Label M → Prop
  | .work conn _ now => match s.workers conn with
    | .enter (.login ..) => (s.sockets conn).teardown.Ahead s.sessions.arcs.length
    | .complete gid arc previous seq ack => s.sessions.get gid = some arc →
      ∀ session ∈ s.sessions.arcs[arc]?, session.resumable previous seq = true →
      (session.pruneOutbox now config.resumeTtl).outboxGap ack = false →
      (s.sockets conn).teardown.Ahead arc
    | _ => True
  | _ => True

instance (config : SessionConfig) (s : Closing B) (l : Label M) : Decidable (s.InTime config l) :=
  match l with
  | .work conn _ now => match worker : s.workers conn with
    | .enter (.login ..) =>
      decidable_of_iff ((s.sockets conn).teardown.Ahead s.sessions.arcs.length) (by simp [InTime, worker])
    | .complete gid arc previous seq ack =>
      decidable_of_iff (s.sessions.get gid = some arc →
        ∀ session ∈ s.sessions.arcs[arc]?, session.resumable previous seq = true →
        (session.pruneOutbox now config.resumeTtl).outboxGap ack = false →
        (s.sockets conn).teardown.Ahead arc) (by simp [InTime, worker])
    | .idle | .bind _ | .check _ | .enter (.reconnect ..) => .isTrue (by simp [InTime, worker])
  | .handle .. | .close _ | .onDisconnected _ | .disconnect .. | .kick .. | .advanceKick .. | .invalidate ..
  | .pruneExpired _ => .isTrue trivial

/-! ## Every bound connection has its task ahead -/

/-- What the worker knows of its player. -/
def Owned (owner : Nat → Gid) (arcs : Nat) (userId : Option Gid) : Binding → Prop
  | .idle => True
  | .bind _ => userId = none
  | .check request | .enter request => userId = some request.gid
  | .complete gid arc _ _ _ => userId = some gid ∧ arc < arcs ∧ owner arc = gid

structure Tended (owner : Nat → Gid) (s : Closing B) : Prop where
  sound : s.sessions.Sound owner
  workers : ∀ conn, Owned owner s.sessions.arcs.length (s.sockets conn).userId (s.workers conn)
  -- the task will look up the player that the connection is bound to
  ahead : ∀ gid arc conn, s.sessions.Bound gid arc conn →
    (s.sockets conn).userId = some gid ∧ (s.sockets conn).teardown.Ahead arc

variable {owner : Nat → Gid} {s t : Closing B} {config : SessionConfig}

/-- A step on the table that binds no connection. -/
theorem Tended.table (tended : Tended owner s) {sessions : ClientSessions B} {kicks : List Kick}
    (sound : sessions.Sound owner) (same : sessions.arcs.length = s.sessions.arcs.length)
    (unbinds : ∀ gid arc conn, sessions.Bound gid arc conn → s.sessions.Bound gid arc conn) :
    Tended owner { s with sessions := sessions, kicks := kicks } where
  sound := sound
  workers := by
    intro conn
    change Owned owner sessions.arcs.length _ _
    rw [same]
    exact tended.workers conn
  ahead := by
    intro gid arc conn bound
    exact tended.ahead gid arc conn (unbinds gid arc conn bound)

/-- The worker of one connection moves on. -/
theorem Tended.setWorker (tended : Tended owner s) (conn : Connection) {binding : Binding}
    (owned : Owned owner s.sessions.arcs.length (s.sockets conn).userId binding) :
    Tended owner (s.setWorker conn binding) where
  sound := tended.sound
  workers := by
    intro other
    by_cases same : other = conn
    · subst same
      simpa [Closing.setWorker] using owned
    · simpa [Closing.setWorker, same] using tended.workers other
  ahead := tended.ahead

/-- A connection is marked, and keeps its player. -/
theorem Tended.setSocket (tended : Tended owner s) (conn : Connection) {socket : Socket}
    (user : socket.userId = (s.sockets conn).userId)
    (ahead : ∀ gid arc, s.sessions.Bound gid arc conn → socket.teardown.Ahead arc) :
    Tended owner (s.setSocket conn socket) where
  sound := tended.sound
  workers := by
    intro other
    by_cases same : other = conn
    · subst same
      simpa [Closing.setSocket, user] using tended.workers other
    · simpa [Closing.setSocket, same] using tended.workers other
  ahead := by
    intro gid arc other bound
    by_cases same : other = conn
    · subst same
      simpa [Closing.setSocket, user] using ⟨(tended.ahead gid arc other bound).1, ahead gid arc bound⟩
    · simpa [Closing.setSocket, same] using tended.ahead gid arc other bound

theorem Tended.close (tended : Tended owner s) (conn : Connection) : Tended owner (s.close conn) :=
  tended.setSocket conn rfl fun gid arc bound => (tended.ahead gid arc conn bound).2

/-- The handler fails: it closes its connection and ends. -/
theorem Tended.fail (tended : Tended owner s) (conn : Connection) :
    Tended owner ((s.close conn).setWorker conn .idle) :=
  (tended.close conn).setWorker conn trivial

/-- A connection without a player is in no session, so it can be given one. -/
theorem Tended.bindUser (tended : Tended owner s) (conn : Connection) (request : BindRequest)
    (unbound : (s.sockets conn).userId = none) :
    Tended owner ((s.setSocket conn { s.sockets conn with userId := some request.gid }).setWorker conn
      (.check request)) where
  sound := tended.sound
  workers := by
    intro other
    by_cases same : other = conn
    · subst same
      simp [Closing.setWorker, Closing.setSocket, Owned]
    · simpa [Closing.setWorker, Closing.setSocket, same] using tended.workers other
  ahead := by
    intro gid arc other bound
    have before := tended.ahead gid arc other bound
    by_cases same : other = conn
    · subst same
      rw [unbound] at before
      cases before.1
    · simpa [Closing.setWorker, Closing.setSocket, same] using before

theorem Tended.installLogin (tended : Tended owner s) (conn : Connection) (gid : Gid) (routes : Routes)
    (seq : UInt32)
    (user : (s.sockets conn).userId = some gid) (ahead : (s.sockets conn).teardown.Ahead s.sessions.arcs.length) :
    ∃ owner, Tended owner
      ({ s with sessions := (s.sessions.installLogin gid conn routes seq).2 }.setWorker conn .idle) := by
  refine ⟨_, tended.sound.installLogin gid conn routes seq, ?_, ?_⟩
  · intro other
    by_cases same : other = conn
    · subst same
      simp [Closing.setWorker, Owned]
    · have before := tended.workers other
      have grows : (s.sessions.installLogin gid conn routes seq).2.arcs.length = s.sessions.arcs.length + 1 := by
        simp [ClientSessions.installLogin]
      simp only [Closing.setWorker, Function.update_of_ne same, grows]
      cases worker : s.workers other with
      | idle => trivial
      | bind request =>
        rw [worker] at before
        exact before
      | check request =>
        rw [worker] at before
        exact before
      | enter request =>
        rw [worker] at before
        exact before
      | complete held arc previous seq ack =>
        rw [worker] at before
        obtain ⟨isUser, inside, owned⟩ := before
        refine ⟨isUser, by omega, ?_⟩
        rw [Function.update_of_ne (by omega)]
        exact owned
  · intro other arc bound isBound
    -- the new entry is the one that `InTime` speaks of
    rcases isBound.of_installLogin tended.sound with ⟨rfl, rfl, rfl⟩ | before
    · exact ⟨user, ahead⟩
    · exact tended.ahead other arc bound before

/-- A reconnect binds the session under its `Arc`, if that is still in the map. -/
theorem Tended.resume (tended : Tended owner s) {conn : Connection} {gid : Gid} {arc : Nat}
    {session : ClientSession B} (user : (s.sockets conn).userId = some gid) (owned : owner arc = gid)
    (mark : session.sessionId = conn.sessionId) (bound : session.conn = some conn)
    (ahead : s.sessions.get gid = some arc → (s.sockets conn).teardown.Ahead arc) :
    Tended owner { s with sessions := s.sessions.store arc session } where
  sound := by
    apply tended.sound.store
    intro c isBound
    rw [bound] at isBound
    obtain rfl := Option.some.inj isBound
    exact mark.symm
  workers := by
    intro other
    simpa [ClientSessions.store] using tended.workers other
  ahead := by
    intro other held c isBound
    rcases isBound.of_store with ⟨rfl, isConn, entry⟩ | ⟨_, before⟩
    · rw [bound] at isConn
      obtain rfl := Option.some.inj isConn
      -- an `Arc` is in the map under its owner only
      have player : other = gid := (tended.sound.entries other held entry).2.symm.trans owned
      subst player
      exact ⟨user, ahead entry⟩
    · exact tended.ahead other held c before

theorem Tended.complete (tended : Tended owner s) {conn : Connection} {gid : Gid} {arc : Nat}
    {previous : SessionId} {seq ack : UInt32} {now : Nat} {old : ClientSession B}
    (user : (s.sockets conn).userId = some gid) (owned : owner arc = gid)
    (found : s.sessions.arcs[arc]? = some old)
    (inTime : s.sessions.get gid = some arc → old.resumable previous seq = true →
      (old.pruneOutbox now config.resumeTtl).outboxGap ack = false → (s.sockets conn).teardown.Ahead arc) :
    Tended owner
      { s with sessions := s.sessions.store arc (old.completeReconnect previous conn seq ack now config).2 } := by
  have quiet : ∀ session, old.Same session → Tended owner { s with sessions := s.sessions.store arc session } := by
    intro session same
    exact tended.table (tended.sound.store_same found same) (by simp [ClientSessions.store])
      fun _ _ _ bound => bound.of_store_same found same
  rcases old.completeReconnect_cases previous conn seq ack now config with
    ⟨_, result⟩ | ⟨_, _, result⟩ | ⟨resumable, gapless, result⟩
  · rw [result]
    exact quiet old ⟨rfl, rfl⟩
  · rw [result]
    exact quiet _ ⟨rfl, rfl⟩
  · rw [result]
    exact tended.resume user owned rfl rfl fun entry => inTime entry resumable gapless

theorem Tended.work (tended : Tended owner s) {conn : Connection} {answer : Bool} {now : Nat}
    (inTime : s.InTime config (.work conn answer now : Label M))
    (taken : s.work config conn answer now = some t) : ∃ owner, Tended owner t := by
  have owned := tended.workers conn
  simp only [InTime] at inTime
  cases worker : s.workers conn with
  | idle => simp [Closing.work, worker] at taken
  | bind request =>
    rw [worker] at owned
    simp only [Closing.work, worker] at taken
    cases answer with
    | true =>
      simp only [if_true] at taken
      obtain rfl := Option.some.inj taken
      exact ⟨owner, tended.bindUser conn request owned⟩
    | false =>
      simp only [Bool.false_eq_true, if_false] at taken
      obtain rfl := Option.some.inj taken
      exact ⟨owner, tended.fail conn⟩
  | check request =>
    rw [worker] at owned
    simp only [Closing.work, worker] at taken
    split at taken
    · obtain rfl := Option.some.inj taken
      exact ⟨owner, tended.fail conn⟩
    · obtain rfl := Option.some.inj taken
      exact ⟨owner, tended.setWorker conn owned⟩
  | enter request =>
    rw [worker] at owned inTime
    cases request with
    | login gid routes seq =>
      simp only [Closing.work, worker] at taken
      obtain rfl := Option.some.inj taken
      exact tended.installLogin conn gid routes seq owned inTime
    | reconnect gid previous seq ack =>
      simp only [Closing.work, worker] at taken
      cases entry : s.sessions.get gid with
      | none =>
        simp only [entry] at taken
        obtain rfl := Option.some.inj taken
        exact ⟨owner, tended.fail conn⟩
      | some arc =>
        simp only [entry] at taken
        obtain rfl := Option.some.inj taken
        exact ⟨owner, tended.setWorker conn ⟨owned, tended.sound.entries gid arc entry⟩⟩
  | complete gid arc previous seq ack =>
    rw [worker] at owned inTime
    obtain ⟨user, _, isOwner⟩ := owned
    simp only [Closing.work, worker, Option.map_eq_some_iff] at taken
    obtain ⟨session, found, result⟩ := taken
    have moved := tended.complete user isOwner found fun entry => inTime entry session found
    -- a reconnect that fails closes its connection
    split at result
    · obtain rfl := result
      exact ⟨owner, moved.setWorker conn trivial⟩
    · obtain rfl := result
      exact ⟨owner, moved.fail conn⟩

/-- The spawned task finds the session that is bound to its connection. -/
theorem Tended.disconnect (tended : Tended owner s) {conn : Connection} {now : Nat}
    (taken : s.disconnect conn now = some t) : Tended owner t := by
  cases teardown : (s.sockets conn).teardown with
  | waiting => simp [Closing.disconnect, teardown] at taken
  | finished => simp [Closing.disconnect, teardown] at taken
  | spawned =>
    simp only [Closing.disconnect, teardown] at taken
    cases looked : (s.sockets conn).userId.bind s.sessions.get with
    | none =>
      simp only [looked] at taken
      obtain rfl := Option.some.inj taken
      refine tended.setSocket conn rfl ?_
      intro gid arc bound
      -- a bound session would have been found under the player of the connection
      rw [(tended.ahead gid arc conn bound).1, Option.bind_some, bound.1] at looked
      cases looked
    | some held =>
      simp only [looked] at taken
      obtain rfl := Option.some.inj taken
      refine tended.setSocket conn rfl ?_
      intro gid arc bound
      -- the task holds the very `Arc` that the session is bound under
      rw [(tended.ahead gid arc conn bound).1, Option.bind_some, bound.1] at looked
      exact (Option.some.inj looked).symm
  | locking held =>
    simp only [Closing.disconnect, teardown, Option.map_eq_some_iff] at taken
    obtain ⟨session, found, rfl⟩ := taken
    rcases session.disconnect_unbinds conn.sessionId now with ⟨mismatch, same⟩ | ⟨_, _, _, unbound⟩
    · -- the session under the `Arc` is not the one of this connection
      have kept : Tended owner { s with sessions := s.sessions.store held session } :=
        tended.table (tended.sound.store_same found (.refl session)) (by simp [ClientSessions.store])
          fun _ _ _ bound => bound.of_store_same found (.refl session)
      rw [same]
      refine kept.setSocket conn rfl ?_
      intro gid arc bound
      exfalso
      have before := bound.of_store_same found (.refl session)
      have isHeld := (tended.ahead gid arc conn before).2
      rw [teardown] at isHeld
      subst isHeld
      obtain ⟨_, _, behind, isBound⟩ := before
      obtain rfl := Option.some.inj (found.symm.trans behind)
      apply mismatch
      refine ⟨(tended.sound.marks held session conn found isBound).symm, ?_⟩
      simp [ClientSession.active, isBound]
    · have kept : Tended owner
          { s with sessions := s.sessions.store held (session.disconnect conn.sessionId now).2 } :=
        tended.table (tended.sound.store_unbound held unbound.2) (by simp [ClientSessions.store])
          fun _ _ _ bound => (bound.of_store_unbound unbound.2).2
      refine kept.setSocket conn rfl ?_
      intro gid arc bound
      exfalso
      -- the task has just unbound the only `Arc` that it could be
      obtain ⟨differ, before⟩ := bound.of_store_unbound unbound.2
      have isHeld := (tended.ahead gid arc conn before).2
      rw [teardown] at isHeld
      exact differ isHeld.symm

theorem Tended.step (tended : Tended owner s) (wire : Wire M B) {l : Label M} (inTime : s.InTime config l)
    (taken : s.step wire config l = some t) : ∃ owner, Tended owner t := by
  cases l with
  | handle conn request =>
    simp only [Closing.step, Option.ite_none_right_eq_some, Option.some.injEq] at taken
    obtain ⟨⟨_, unbound, _⟩, rfl⟩ := taken
    exact ⟨owner, tended.setWorker conn unbound⟩
  | work conn answer now => exact tended.work inTime taken
  | close conn =>
    obtain rfl := Option.some.inj taken
    exact ⟨owner, tended.close conn⟩
  | onDisconnected conn =>
    simp only [Closing.step, Option.ite_none_right_eq_some, Option.some.injEq] at taken
    obtain ⟨_, rfl⟩ := taken
    exact ⟨owner, tended.setSocket conn rfl fun _ _ _ => trivial⟩
  | disconnect conn now => exact ⟨owner, tended.disconnect taken⟩
  | kick gid sessionId =>
    simp only [Closing.step, Option.map_eq_some_iff] at taken
    obtain ⟨arc, _, rfl⟩ := taken
    exact ⟨owner, tended.table tended.sound rfl fun _ _ _ bound => bound⟩
  | advanceKick i message now =>
    simp only [Closing.step, Option.bind_eq_some_iff, Option.map_eq_some_iff] at taken
    obtain ⟨kick, _, ⟨sessions, closing, next⟩, advanced, result⟩ := taken
    obtain ⟨sound, same, unbinds⟩ := ClientSessions.advanceKick_unbinds advanced
    have moved : Tended owner { s with sessions := sessions, kicks := s.kicks.set i next } :=
      tended.table (sound tended.sound) same unbinds
    cases closing with
    | none =>
      obtain rfl := result
      exact ⟨owner, moved⟩
    | some conn =>
      obtain rfl := result
      exact ⟨owner, moved.close conn⟩
  | invalidate gid sessionId =>
    obtain rfl := Option.some.inj taken
    refine ⟨owner, tended.table (tended.sound.invalidate gid sessionId) ?_ fun _ _ _ bound => bound.of_invalidate⟩
    rcases s.sessions.invalidate_cases gid sessionId with same | ⟨_, _, _, _, _, removed⟩
    · rw [same]
    · rw [removed]
  | pruneExpired now =>
    obtain rfl := Option.some.inj taken
    exact ⟨owner, tended.table (tended.sound.pruneExpired now config) rfl fun _ _ _ bound => bound.of_pruneExpired⟩

/-- As long as every handler is in time, no active session of the table is left on
    a dead connection. -/
theorem no_active_session_on_dead_connection (wire : Wire M B) (config : ValidSessionConfig) {s : Closing B}
    (reached : (system wire config).Reach (InTime config.toSessionConfig) s) : s.NoneDead := by
  have tended : ∃ owner, Tended owner s := by
    apply reached.inv
    · rintro _ rfl
      refine ⟨fun _ => 0, .new, fun _ => trivial, ?_⟩
      intro gid arc conn bound
      cases bound.1
    · rintro s l t ⟨owner, tended⟩ inTime taken
      exact tended.step wire inTime taken
  obtain ⟨owner, tended⟩ := tended
  intro conn _ finished _ gid arc bound
  have ahead := (tended.ahead gid arc conn bound).2
  rw [finished] at ahead
  exact ahead

/-- The connection closes after the check and is bound; the spawned task comes
    after the login and unbinds it. -/
def closeAfterCheck : List (Label Unit) :=
  [.handle ⟨7⟩ (.login 1 ⟨1, 2⟩ 0), .work ⟨7⟩ true 0, .work ⟨7⟩ true 0, .close ⟨7⟩, .onDisconnected ⟨7⟩,
    .work ⟨7⟩ true 1, .disconnect ⟨7⟩ 2, .disconnect ⟨7⟩ 2]

theorem closeAfterCheck_none_dead :
    ∃ s : Closing Unit, (s.sockets ⟨7⟩).isClosed = true ∧ (s.sockets ⟨7⟩).teardown = .finished
      ∧ s.sessions.get 1 = some 0 ∧ s.NoneDead := by
  have run : ∃ s, System.follow (InTime SessionConfig.HARD_LIMITS)
      (step Gateway.blankWire SessionConfig.HARD_LIMITS) new closeAfterCheck = some s
      ∧ (s.sockets ⟨7⟩).isClosed = true ∧ (s.sockets ⟨7⟩).teardown = .finished ∧ s.sessions.get 1 = some 0 := by
    decide +kernel
  obtain ⟨s, followed, isClosed, finished, entry⟩ := run
  have reached : (system Gateway.blankWire .hardLimits).Reach (InTime SessionConfig.HARD_LIMITS) s :=
    System.reach_of_follow rfl followed
  exact ⟨s, isClosed, finished, entry, no_active_session_on_dead_connection Gateway.blankWire .hardLimits reached⟩

/-- The same close, but the spawned task has finished before the login. -/
def disconnectBeforeInstall : List (Label Unit) :=
  [.handle ⟨7⟩ (.login 1 ⟨1, 2⟩ 0), .work ⟨7⟩ true 0, .work ⟨7⟩ true 0, .close ⟨7⟩, .onDisconnected ⟨7⟩,
    .disconnect ⟨7⟩ 1, .work ⟨7⟩ true 2]

theorem active_on_dead_connection :
    ¬ ∀ s : Closing Unit, (system Gateway.blankWire .hardLimits).Reach System.Any s → s.NoneDead := by
  intro noneDead
  have run : ∃ s, System.follow System.Any (step Gateway.blankWire SessionConfig.HARD_LIMITS) new
      disconnectBeforeInstall = some s
      ∧ (s.sockets ⟨7⟩).isClosed = true ∧ (s.sockets ⟨7⟩).teardown = .finished ∧ s.workers ⟨7⟩ = .idle
      ∧ s.sessions.get 1 = some 0
      ∧ ∃ session, s.sessions.arcs[0]? = some session ∧ session.conn = some ⟨7⟩ := by
    decide +kernel
  obtain ⟨s, followed, isClosed, finished, idle, bound⟩ := run
  exact noneDead s (System.reach_of_follow rfl followed) ⟨7⟩ isClosed finished idle 1 0 bound

end Closing

end Xkk.Gate
