import Xkk.Gate.Delivery
import Xkk.Lib.Pool

/-! # Replay and concurrent sends

`handle_reconnect` binds its connection, makes it the connection of the session in
`complete_reconnect`, waits for the save of the online record and only then hands
the replay to the connection, one message at a time and without the session lock.
From `complete_reconnect` on every `send` goes to the same connection.

`Handover` runs one session with any number of reconnect handlers, senders and
kicks beside each other.  `handed` lists the bound frames that connections have
accepted; a frame is written down with its number in the stream, of which the
code transmits the lower 32 bits.
-/

namespace Xkk.Gate

open Xkk.Lib

namespace Stream

variable {M B : Type} {s t u : Stream B}

/-! ## What stays in order -/

/-- An operation that binds no connection takes messages out of the outbox, or
    closes the session. -/
structure Trims (s t : Stream B) : Prop where
  kept : t.kept.Sublist s.kept
  conn : ∀ conn ∈ t.session.conn, conn ∈ s.session.conn

theorem Trims.refl (s : Stream B) : Trims s s := ⟨.refl _, fun _ member => member⟩

theorem Trims.trans (first : Trims s t) (second : Trims t u) : Trims s u :=
  ⟨second.kept.trans first.kept, fun conn member => first.conn conn (second.conn conn member)⟩

theorem Trims.with_session (trims : Trims s t) {session : ClientSession B}
    (conn : session.conn = t.session.conn) : Trims s { t with session := session } :=
  ⟨trims.kept, by rw [show ({ t with session := session } : Stream B).session.conn = _ from conn]
                  exact trims.conn⟩

theorem trims_prune (s : Stream B) (now ttl : Nat) : Trims s (s.prune now ttl) :=
  ⟨List.drop_sublist _ _, fun _ member => member⟩

theorem trims_acknowledge (s : Stream B) (ack : Nat) : Trims s (s.acknowledge ack) :=
  ⟨List.drop_sublist _ _, fun _ member => member⟩

theorem trims_later (s : Stream B) (now : Nat) : Trims s { s with clock := now } :=
  ⟨.refl _, fun _ member => member⟩

theorem trims_acceptSequence (s : Stream B) (sessionId : SessionId) (seq : UInt32) (ack now : Nat)
    (config : SessionConfig) : Trims s (s.acceptSequence sessionId seq ack now config) := by
  have later := trims_later s now
  rcases s.session.acceptSequence_cases sessionId seq (UInt32.ofNat ack) now config.resumeTtl with
    ⟨error, result⟩ | ⟨_, _, _, result⟩
  · simp only [acceptSequence, result]
    exact later
  · simp only [acceptSequence, result]
    exact ((later.trans (trims_prune _ now config.resumeTtl)).trans (trims_acknowledge _ ack)).with_session rfl

theorem trims_acceptRequest (s : Stream B) (sessionId : SessionId) (seq : UInt32) (ack now : Nat)
    (config : SessionConfig) : Trims s (s.acceptRequest sessionId seq ack now config) := by
  obtain ⟨times, same⟩ := s.session.acceptRequest_snd sessionId seq (UInt32.ofNat ack) now config
  rw [← acceptSequence_session] at same
  exact (trims_acceptSequence s sessionId seq ack now config).with_session (by rw [same])

theorem trims_authorizeReconnect (s : Stream B) (previous : SessionId) (clientSeq : UInt32)
    (ack now : Nat) (config : SessionConfig) :
    Trims s (s.authorizeReconnect previous clientSeq ack now config) := by
  have later := trims_later s now
  rcases s.session.authorizeReconnect_cases previous clientSeq (UInt32.ofNat ack) now config with
    ⟨refused, result⟩ | ⟨granted, count, times, result⟩
  · simp only [authorizeReconnect, refused, result]
    exact later
  · simp only [authorizeReconnect, granted, result, if_true]
    exact (later.trans (trims_prune _ now config.resumeTtl)).with_session rfl

theorem trims_disconnect (s : Stream B) (sessionId : SessionId) (now : Nat) :
    Trims s (s.disconnect sessionId now) := by
  rcases s.session.disconnect_snd sessionId now with result | result
  · exact (trims_later s now).with_session (by rw [result])
  · refine ⟨.refl _, ?_⟩
    intro conn member
    rw [disconnect, result] at member
    cases member

/-- `complete_reconnect` fails, and then binds nothing, or binds its connection. -/
theorem completeReconnect_trims (s : Stream B) (previous : SessionId) (conn : Connection)
    (clientSeq : UInt32) (ack now : Nat) (config : SessionConfig) :
    let result := (s.session.completeReconnect previous conn clientSeq (UInt32.ofNat ack) now config).1
    let after := s.completeReconnect previous conn clientSeq ack now config
    after.kept.Sublist s.kept
    ∧ ((∃ error, result = .error error) ∧ after.session.conn = s.session.conn
      ∨ (∃ resumed, result = .ok resumed) ∧ after.session.conn = some conn) := by
  have later := trims_later s now
  have pruned := later.trans (trims_prune _ now config.resumeTtl)
  rcases s.session.completeReconnect_cases previous conn clientSeq (UInt32.ofNat ack) now config with
    ⟨_, result⟩ | ⟨_, _, result⟩ | ⟨_, _, result⟩
  · simp only [completeReconnect, result]
    exact ⟨later.kept, .inl ⟨⟨_, rfl⟩, trivial⟩⟩
  · simp only [completeReconnect, result]
    exact ⟨pruned.kept, .inl ⟨⟨_, rfl⟩, rfl⟩⟩
  · simp only [completeReconnect, result]
    exact ⟨(pruned.trans (trims_acknowledge _ ack)).kept, .inr ⟨⟨_, rfl⟩, rfl⟩⟩

theorem trims_makeRoom (s : Stream B) (now : Nat) (config : SessionConfig) :
    (s.makeRoom now config).kept.Sublist s.kept := by
  have pruned := trims_prune s now config.resumeTtl
  rw [makeRoom]
  split
  · exact (List.drop_sublist _ _).trans pruned.kept
  · exact pruned.kept

theorem evictOldest_conn (session : ClientSession B) : session.evictOldest.conn = session.conn := by
  unfold ClientSession.evictOldest
  split <;> rfl

/-- `encode` puts at most its own message behind the others. -/
theorem encode_kept (wire : Wire M B) (s : Stream B) (msgid : MsgId) (message : M) (now : Nat)
    (config : SessionConfig) :
    ((s.encode wire msgid message now config).kept.Sublist s.kept
      ∨ ∃ m : Issued B, m.number = s.count + 1
        ∧ (s.encode wire msgid message now config).kept.Sublist (s.kept ++ [m]))
    ∧ (s.encode wire msgid message now config).session.conn = s.session.conn := by
  cases written : wire.encodeMessage
      ⟨msgid.asU16, s.session.serverSeq + 1, s.session.clientSeq⟩ message with
  | none =>
    simp only [encode, ClientSession.encode, written]
    exact ⟨.inl (.refl _), trivial⟩
  | some bytes =>
    by_cases eligible : isOutboxMessage wire.systemMsgIdEnd msgid.asU16 = true
    · simp only [encode, ClientSession.encode, written, eligible, if_true]
      refine ⟨.inr ⟨_, makeRoom_count _ _ _,
        (trims_makeRoom (s.advance now) now config).append (.refl _)⟩, ?_⟩
      rw [ClientSession.makeRoom]
      split
      · exact evictOldest_conn _
      · rfl
    · simp only [encode, ClientSession.encode, written, eligible]
      exact ⟨.inl (.refl _), rfl⟩

end Stream

/-! ## Handlers and senders beside each other -/

structure Frame where
  conn : SessionId
  number : Nat
deriving DecidableEq, Repr

/-- The sequence in the head of the frame. -/
def Frame.seq (f : Frame) : UInt32 := UInt32.ofNat f.number

inductive HandlerPhase (B : Type) where
  | authorized
  | bound
  | saving (replay : List (Issued B))
  | replaying (replay : List (Issued B))
  | done
  | refused                                  -- the connection was not bound
deriving DecidableEq, Repr

/-- What the handler still has to hand to its connection. -/
def HandlerPhase.replay {B : Type} : HandlerPhase B → List (Issued B)
  | .saving replay | .replaying replay => replay
  | .authorized | .bound | .done | .refused => []

/-- The connection of the handler has been bound to the player. -/
def HandlerPhase.isBound {B : Type} : HandlerPhase B → Bool
  | .authorized | .refused => false
  | .bound | .saving _ | .replaying _ | .done => true

/-- A `handle_reconnect` that `authorize_reconnect` let pass. -/
structure ReconnectHandler (B : Type) where
  previous : SessionId
  conn : Connection
  seq : UInt32
  ack : Nat
  phase : HandlerPhase B
deriving DecidableEq, Repr

structure Handover (B : Type) where
  stream : Stream B
  handlers : List (ReconnectHandler B)
  bound : List SessionId       -- connections on which `bind_user` has succeeded
  handed : List Frame
deriving DecidableEq, Repr

namespace Handover

variable {M B : Type}

def new (conn : Connection) (routes : Routes) (clientSeq : UInt32) (now : Nat) : Handover B where
  stream := .new conn routes clientSeq now
  handlers := []
  bound := [conn.sessionId]
  handed := []

def hand (s : Handover B) (conn : SessionId) (number : Nat) : Handover B :=
  { s with handed := s.handed ++ [⟨conn, number⟩] }

/-- A message is encoded; `takes` is the answer of `send_shared`. -/
def emit (wire : Wire M B) (config : SessionConfig) (s : Handover B) (conn : Connection) (msgid : MsgId)
    (message : M) (now : Nat) (takes : Bool) : Handover B :=
  let payload := (s.stream.session.encode wire msgid message now config).1
  let t := { s with stream := s.stream.encode wire msgid message now config }
  if payload.isSome && takes then t.hand conn.sessionId t.stream.count else t

/-- `ClientSessions::send` -/
def send (wire : Wire M B) (config : SessionConfig) (s : Handover B) (sessionId : SessionId)
    (msgid : MsgId) (message : M) (now : Nat) (takes : Bool) : Handover B :=
  match s.stream.session.conn with
  | none => s
  | some conn =>
    if s.stream.session.sessionId ≠ sessionId then s
    else s.emit wire config conn msgid message now takes

/-- The first section of `ClientSessions::kick`. -/
def kick (wire : Wire M B) (config : SessionConfig) (s : Handover B) (sessionId : SessionId)
    (message : M) (now : Nat) (takes : Bool) : Handover B :=
  if s.stream.session.sessionId ≠ sessionId then s
  else
    let taken := { s with stream := { s.stream with session := { s.stream.session with conn := none } } }
    match s.stream.session.conn with
    | none => taken
    | some conn => taken.emit wire config conn .kickNtf message now takes

def setHandler (s : Handover B) (i : Nat) (h : ReconnectHandler B) (phase : HandlerPhase B) : Handover B :=
  { s with handlers := s.handlers.set i { h with phase := phase } }

def authorize (config : SessionConfig) (s : Handover B) (previous : SessionId) (conn : Connection)
    (seq : UInt32) (ack now : Nat) : Handover B :=
  let granted := (s.stream.session.authorizeReconnect previous seq (UInt32.ofNat ack) now config).1
  let t := { s with stream := s.stream.authorizeReconnect previous seq ack now config }
  match granted with
  | .ok _ => { t with handlers := t.handlers ++ [⟨previous, conn, seq, ack, .authorized⟩] }
  | .error _ => t

def bind (s : Handover B) (i : Nat) (h : ReconnectHandler B) (bound : Bool) : Option (Handover B) :=
  match h.phase with
  | .authorized =>
    if bound then some { s.setHandler i h .bound with bound := s.bound ++ [h.conn.sessionId] }
    else some (s.setHandler i h .refused)
  | _ => none

def complete (config : SessionConfig) (s : Handover B) (i : Nat) (h : ReconnectHandler B) (now : Nat) :
    Handover B :=
  let result := (s.stream.session.completeReconnect h.previous h.conn h.seq (UInt32.ofNat h.ack) now config).1
  let t := { s with stream := s.stream.completeReconnect h.previous h.conn h.seq h.ack now config }
  match result with
  | .ok _ => t.setHandler i h (.saving (t.stream.replayOf h.ack))
  | .error _ => t.setHandler i h .done

/-- The save of the online record has returned. -/
def saved (s : Handover B) (i : Nat) (h : ReconnectHandler B) (ok : Bool) : Option (Handover B) :=
  match h.phase with
  | .saving replay => some (s.setHandler i h (if ok then .replaying replay else .done))
  | _ => none

/-- The next message of the replay; a refusal ends the loop. -/
def replay (s : Handover B) (i : Nat) (h : ReconnectHandler B) (takes : Bool) : Option (Handover B) :=
  match h.phase with
  | .replaying (m :: rest) =>
    if takes then some ((s.setHandler i h (.replaying rest)).hand h.conn.sessionId m.number)
    else some (s.setHandler i h .done)
  | _ => none

inductive Label (M : Type) where
  -- responses, pushed notices and the `ReconnectRsp`
  | send (sessionId : SessionId) (msgid : MsgId) (message : M) (now : Nat) (takes : Bool)
  | kick (sessionId : SessionId) (message : M) (now : Nat) (takes : Bool)
  | sequence (sessionId : SessionId) (seq : UInt32) (ack now : Nat)
  | request (sessionId : SessionId) (seq : UInt32) (ack now : Nat)
  | disconnect (sessionId : SessionId) (now : Nat)
  -- `handle_reconnect`
  | authorize (previous : SessionId) (conn : Connection) (seq : UInt32) (ack now : Nat)
  | bind (i : Nat) (bound : Bool)            -- `bound` is what `bind_user` answers
  | complete (i : Nat) (now : Nat)
  | saved (i : Nat) (ok : Bool)
  | replay (i : Nat) (takes : Bool)
deriving DecidableEq, Repr

/-- Whoever has the session may act on it, also after it has left the table. -/
def step (wire : Wire M B) (config : SessionConfig) (s : Handover B) : Label M → Option (Handover B)
  | .send sessionId msgid message now takes => some (s.send wire config sessionId msgid message now takes)
  | .kick sessionId message now takes => some (s.kick wire config sessionId message now takes)
  | .sequence sessionId seq ack now =>
    some { s with stream := s.stream.acceptSequence sessionId seq ack now config }
  | .request sessionId seq ack now =>
    some { s with stream := s.stream.acceptRequest sessionId seq ack now config }
  | .disconnect sessionId now => some { s with stream := s.stream.disconnect sessionId now }
  | .authorize previous conn seq ack now =>
    -- one worker serves the connection, a handler that fails closes it, and one
    -- that finds it bound is turned away
    if conn.sessionId ∈ s.bound ∨ ∃ h ∈ s.handlers, h.conn = conn then none
    else some (s.authorize config previous conn seq ack now)
  | .bind i bound => s.handlers[i]?.bind (s.bind i · bound)
  | .complete i now =>
    s.handlers[i]?.bind fun h =>
      match h.phase with
      | .bound => some (s.complete config i h now)
      | _ => none
  | .saved i ok => s.handlers[i]?.bind (s.saved i · ok)
  | .replay i takes => s.handlers[i]?.bind (s.replay i · takes)

def system (wire : Wire M B) (config : ValidSessionConfig) : System (Handover B) (Label M) :=
  .ofFun (fun s => ∃ conn routes clientSeq now, s = .new conn routes clientSeq now)
    (step wire config.toSessionConfig)

/-- Nothing is left of the replay to the connection. -/
def Replayed (s : Handover B) (conn : Connection) : Prop :=
  ∀ h ∈ s.handlers, h.conn = conn → h.phase.replay.isEmpty = true

/-- A message is handed to the connection of the session only when its replay is
    through. -/
def Waits (s : Handover B) : Label M → Prop
  | .send sessionId _ _ _ takes | .kick sessionId _ _ takes =>
    takes = true → s.stream.session.sessionId = sessionId → ∀ conn ∈ s.stream.session.conn, s.Replayed conn
  | _ => True

/-- The frames of one connection, in the order in which it accepted them. -/
def frames (s : Handover B) (conn : SessionId) : List Frame := s.handed.filter (·.conn = conn)

/-- The numbers rise, and so do the transmitted sequences, compared as serial
    numbers, of any two frames that are less than `2 ^ 31` apart. -/
def Rising (frames : List Frame) : Prop :=
  frames.Pairwise fun first later => first.number < later.number
    ∧ (later.number < first.number + 2 ^ 31 → seqAfter later.seq first.seq = true)

instance (s : Handover B) (conn : Connection) : Decidable (s.Replayed conn) :=
  inferInstanceAs (Decidable (∀ h ∈ s.handlers, _ = _ → _ = _))

instance (s : Handover B) (l : Label M) : Decidable (s.Waits l) :=
  match l with
  | .send .. | .kick .. => inferInstanceAs (Decidable (_ → _ → ∀ conn ∈ s.stream.session.conn, s.Replayed conn))
  | .sequence .. | .request .. | .disconnect .. | .authorize .. | .bind .. | .complete .. | .saved .. | .replay .. =>
    .isTrue trivial

instance (frames : List Frame) : Decidable (Rising frames) :=
  inferInstanceAs (Decidable (frames.Pairwise fun _ _ => _ ∧ _))

/-! ## The order is kept -/

/-- The frames before `replay` on its connection are older than all of it. -/
def Follows (s : Handover B) (conn : SessionId) (replay : List (Issued B)) : Prop :=
  ∀ f ∈ s.handed, f.conn = conn → ∀ m ∈ replay, f.number < m.number

/-- Nothing has been handed to the connection, and nothing will be before its
    session is completed. -/
def Unused (s : Handover B) (conn : SessionId) : Prop :=
  (∀ f ∈ s.handed, f.conn ≠ conn) ∧ ∀ c ∈ s.stream.session.conn, c.sessionId ≠ conn

/-- What a handler may rely on. -/
structure Tidy (s : Handover B) (h : ReconnectHandler B) : Prop where
  replay : h.phase.replay.Pairwise fun m n => m.number < n.number
  replayLe : ∀ m ∈ h.phase.replay, m.number ≤ s.stream.count
  follows : s.Follows h.conn.sessionId h.phase.replay
  unused : h.phase = .bound → s.Unused h.conn.sessionId
  bound : h.phase.isBound = true → h.conn.sessionId ∈ s.bound
  unbound : h.phase = .authorized → h.conn.sessionId ∉ s.bound

structure Sorted (s : Handover B) : Prop where
  serverSeq : s.stream.session.serverSeq = UInt32.ofNat s.stream.count
  mirrors : s.stream.Mirrors
  kept : s.stream.kept.Pairwise fun m n => m.number < n.number
  keptLe : ∀ m ∈ s.stream.kept, m.number ≤ s.stream.count
  handed : s.handed.Pairwise fun f g => f.conn = g.conn → f.number < g.number
  handedLe : ∀ f ∈ s.handed, f.number ≤ s.stream.count
  handedBound : ∀ f ∈ s.handed, f.conn ∈ s.bound
  sessionBound : ∀ c ∈ s.stream.session.conn, c.sessionId ∈ s.bound
  tidy : ∀ h ∈ s.handlers, s.Tidy h
  -- a connection has one handler
  distinct : ∀ (i j : Nat) (h k : ReconnectHandler B), s.handlers[i]? = some h →
    s.handlers[j]? = some k → h.conn = k.conn → i = j

variable {s : Handover B}

theorem sorted_new (conn : Connection) (routes : Routes) (clientSeq : UInt32) (now : Nat) :
    Sorted (Handover.new conn routes clientSeq now : Handover B) where
  serverSeq := rfl
  mirrors := rfl
  kept := .nil
  keptLe := by intro m member; cases member
  handed := .nil
  handedLe := by intro f member; cases member
  handedBound := by intro f member; cases member
  sessionBound := by
    intro c member
    cases member
    exact List.mem_singleton.mpr rfl
  tidy := by intro h member; cases member
  distinct := by intro i j h k found; cases found

/-- The stream counts on, and its session is on a connection that no handler is
    about to complete. -/
theorem Tidy.with_stream {h : ReconnectHandler B} (tidy : s.Tidy h) {t : Stream B}
    (count : s.stream.count ≤ t.count)
    (conn : h.phase = .bound → ∀ c ∈ t.session.conn, c.sessionId ≠ h.conn.sessionId) :
    Tidy { s with stream := t } h where
  replay := tidy.replay
  replayLe := by
    intro m member
    exact Nat.le_trans (tidy.replayLe m member) count
  follows := tidy.follows
  unused := by
    intro waits
    exact ⟨(tidy.unused waits).1, conn waits⟩
  bound := tidy.bound
  unbound := tidy.unbound

/-- The other handlers do not matter to one. -/
theorem Tidy.with_handlers {h : ReconnectHandler B} (tidy : s.Tidy h)
    (handlers : List (ReconnectHandler B)) : Tidy { s with handlers := handlers } h :=
  { tidy with }

/-- Messages leave the outbox, and the session may change its connection. -/
theorem Sorted.with_stream (inv : Sorted s) {ack : Option Nat} {t : Stream B}
    (shrinks : Stream.Shrinks ack s.stream t) (kept : t.kept.Sublist s.stream.kept)
    (bound : ∀ c ∈ t.session.conn, c.sessionId ∈ s.bound)
    (conn : ∀ h ∈ s.handlers, h.phase = .bound → ∀ c ∈ t.session.conn, c.sessionId ≠ h.conn.sessionId) :
    Sorted { s with stream := t } where
  serverSeq := by
    rw [shrinks.serverSeq, inv.serverSeq, shrinks.count]
  mirrors := shrinks.mirrors
  kept := inv.kept.sublist kept
  keptLe := by
    intro m member
    change m.number ≤ t.count
    rw [shrinks.count]
    exact inv.keptLe m (kept.subset member)
  handed := inv.handed
  handedLe := by
    intro f member
    change f.number ≤ t.count
    rw [shrinks.count]
    exact inv.handedLe f member
  handedBound := inv.handedBound
  sessionBound := bound
  tidy := by
    intro h isHandler
    exact (inv.tidy h isHandler).with_stream (Nat.le_of_eq shrinks.count.symm) (conn h isHandler)
  distinct := inv.distinct

theorem Sorted.trim (inv : Sorted s) {ack : Option Nat} {t : Stream B}
    (shrinks : Stream.Shrinks ack s.stream t) (trims : Stream.Trims s.stream t) :
    Sorted { s with stream := t } := by
  apply inv.with_stream shrinks trims.kept
  · intro c member
    exact inv.sessionBound c (trims.conn c member)
  · intro h isHandler waits c member
    exact ((inv.tidy h isHandler).unused waits).2 c (trims.conn c member)

/-- `encode` takes the next number for itself. -/
theorem Sorted.encode (inv : Sorted s) (wire : Wire M B) (config : SessionConfig) (msgid : MsgId)
    (message : M) (now : Nat) :
    Sorted { s with stream := s.stream.encode wire msgid message now config } := by
  have grows := Stream.grows_encode wire inv.serverSeq inv.mirrors msgid message now config
  obtain ⟨kept, conn⟩ := Stream.encode_kept wire s.stream msgid message now config
  have count := grows.count
  have appended : ∀ m : Issued B, m.number = s.stream.count + 1 →
      (s.stream.kept ++ [m]).Pairwise fun m n => m.number < n.number := by
    intro m number
    apply List.pairwise_append.mpr
    refine ⟨inv.kept, List.pairwise_singleton _ _, ?_⟩
    intro n isKept last isLast
    have le := inv.keptLe n isKept
    rw [List.mem_singleton.mp isLast]
    omega
  refine { inv with serverSeq := ?_, mirrors := grows.mirrors, kept := ?_, keptLe := ?_,
                    handedLe := ?_, sessionBound := ?_, tidy := ?_ }
  · rw [grows.serverSeq, inv.serverSeq, count, UInt32.ofNat_add]
    rfl
  · rcases kept with same | ⟨m, number, sub⟩
    · exact inv.kept.sublist same
    · exact (appended m number).sublist sub
  · intro m member
    change m.number ≤ (s.stream.encode wire msgid message now config).count
    rcases grows.kept m member with new | ⟨_, isKept⟩
    · omega
    · have le := inv.keptLe m isKept
      omega
  · intro f member
    have le := inv.handedLe f member
    change f.number ≤ (s.stream.encode wire msgid message now config).count
    omega
  · intro c member
    exact inv.sessionBound c (conn ▸ member)
  · intro h isHandler
    apply (inv.tidy h isHandler).with_stream
    · omega
    · intro waits c member
      exact ((inv.tidy h isHandler).unused waits).2 c (conn ▸ member)

/-- A frame that is newer than what its connection has got. -/
theorem Sorted.hand (inv : Sorted s) {conn : SessionId} {number : Nat}
    (le : number ≤ s.stream.count) (isBound : conn ∈ s.bound)
    (newest : ∀ f ∈ s.handed, f.conn = conn → f.number < number)
    (before : ∀ h ∈ s.handlers, h.conn.sessionId = conn →
      h.phase ≠ .bound ∧ ∀ m ∈ h.phase.replay, number < m.number) :
    Sorted (s.hand conn number) := by
  have frames : ∀ f ∈ (s.hand conn number).handed, f ∈ s.handed ∨ f = ⟨conn, number⟩ := by
    intro f member
    simpa [Handover.hand] using member
  refine { inv with handed := ?_, handedLe := ?_, handedBound := ?_, tidy := ?_ }
  · apply List.pairwise_append.mpr
    refine ⟨inv.handed, List.pairwise_singleton _ _, ?_⟩
    intro f member last isLast same
    rw [List.mem_singleton.mp isLast] at same ⊢
    exact newest f member same
  · intro f member
    rcases frames f member with old | rfl
    · exact inv.handedLe f old
    · exact le
  · intro f member
    rcases frames f member with old | rfl
    · exact inv.handedBound f old
    · exact isBound
  · intro h isHandler
    have tidy := inv.tidy h isHandler
    refine { tidy with follows := ?_, unused := ?_ }
    · intro f member same m isReplayed
      rcases frames f member with old | rfl
      · exact tidy.follows f old same m isReplayed
      · exact (before h isHandler same.symm).2 m isReplayed
    · intro waiting
      obtain ⟨noFrame, noSession⟩ := tidy.unused waiting
      refine ⟨?_, noSession⟩
      intro f member same
      rcases frames f member with old | rfl
      · exact noFrame f old same
      · exact (before h isHandler same.symm).1 waiting

theorem Sorted.emit (inv : Sorted s) (wire : Wire M B) (config : SessionConfig) {conn : Connection}
    (isBound : conn.sessionId ∈ s.bound)
    (completed : ∀ h ∈ s.handlers, h.phase = .bound → h.conn.sessionId ≠ conn.sessionId)
    (msgid : MsgId) (message : M) (now : Nat) {takes : Bool} (through : takes = true → s.Replayed conn) :
    Sorted (s.emit wire config conn msgid message now takes) := by
  have encoded := inv.encode wire config msgid message now
  have count : (s.stream.encode wire msgid message now config).count = s.stream.count + 1 :=
    (Stream.grows_encode wire inv.serverSeq inv.mirrors msgid message now config).count
  unfold Handover.emit
  dsimp only
  split
  case isFalse => exact encoded
  case isTrue goes =>
    obtain ⟨_, accepts⟩ := Bool.and_eq_true_iff.mp goes
    apply encoded.hand (Nat.le_refl _) isBound
    · intro f member _
      have le := inv.handedLe f member
      change f.number < (s.stream.encode wire msgid message now config).count
      omega
    · intro h isHandler same
      refine ⟨fun waiting => completed h isHandler waiting same, ?_⟩
      have empty := through accepts h isHandler (congrArg Connection.mk same)
      rw [List.isEmpty_iff.mp empty]
      intro m member
      cases member

theorem Sorted.distinct_set (inv : Sorted s) {i : Nat} {h : ReconnectHandler B} (found : s.handlers[i]? = some h)
    (phase : HandlerPhase B) (a b : Nat) (k l : ReconnectHandler B)
    (foundK : (s.handlers.set i { h with phase := phase })[a]? = some k)
    (foundL : (s.handlers.set i { h with phase := phase })[b]? = some l) (same : k.conn = l.conn) : a = b := by
  have origin : ∀ (j : Nat) (k : ReconnectHandler B),
      (s.handlers.set i { h with phase := phase })[j]? = some k →
      ∃ before, s.handlers[j]? = some before ∧ before.conn = k.conn := by
    intro j k foundK
    rcases Pool.get_set_cases foundK with ⟨rfl, rfl⟩ | ⟨_, old⟩
    · exact ⟨h, found, rfl⟩
    · exact ⟨k, old, rfl⟩
  obtain ⟨before, oldK, sameK⟩ := origin a k foundK
  obtain ⟨before', oldL, sameL⟩ := origin b l foundL
  exact inv.distinct a b before before' oldK oldL (sameK.trans (same.trans sameL.symm))

/-- A handler moves on. -/
theorem Sorted.with_handler (inv : Sorted s) {i : Nat} {h : ReconnectHandler B} {phase : HandlerPhase B}
    (found : s.handlers[i]? = some h) (tidy : s.Tidy { h with phase := phase }) :
    Sorted (s.setHandler i h phase) := by
  refine { inv with tidy := ?_, distinct := inv.distinct_set found phase }
  intro k isHandler
  rcases List.mem_or_eq_of_mem_set isHandler with old | rfl
  · exact (inv.tidy k old).with_handlers _
  · exact tidy.with_handlers _

/-- A handler that stays bound, or ends, with less to replay. -/
theorem Sorted.move (inv : Sorted s) {i : Nat} {h : ReconnectHandler B} {phase : HandlerPhase B}
    (found : s.handlers[i]? = some h) (sub : phase.replay.Sublist h.phase.replay)
    (bound : phase.isBound = true → h.phase.isBound = true) (past : phase ≠ .bound ∧ phase ≠ .authorized) :
    Sorted (s.setHandler i h phase) := by
  have tidy := inv.tidy h (List.mem_of_getElem? found)
  apply inv.with_handler found
  exact
    { replay := tidy.replay.sublist sub
      replayLe := fun m member => tidy.replayLe m (sub.subset member)
      follows := fun f isHanded same m member => tidy.follows f isHanded same m (sub.subset member)
      unused := fun waits => absurd waits past.1
      bound := fun isBound => tidy.bound (bound isBound)
      unbound := fun waits => absurd waits past.2 }

theorem Sorted.authorize (inv : Sorted s) (config : SessionConfig) (previous : SessionId)
    {conn : Connection} (fresh : ¬ (conn.sessionId ∈ s.bound ∨ ∃ h ∈ s.handlers, h.conn = conn))
    (seq : UInt32) (ack now : Nat) : Sorted (s.authorize config previous conn seq ack now) := by
  have pruned := inv.trim
    (Stream.shrinks_authorizeReconnect inv.mirrors previous seq ack now config)
    (Stream.trims_authorizeReconnect s.stream previous seq ack now config)
  unfold Handover.authorize
  dsimp only
  split
  case h_2 => exact pruned
  case h_1 =>
    refine { pruned with tidy := ?_, distinct := ?_ }
    · intro h isHandler
      rcases List.mem_append.mp isHandler with old | new
      · exact (pruned.tidy h old).with_handlers _
      · rw [List.mem_singleton.mp new]
        exact
          { replay := .nil
            replayLe := by intro m member; cases member
            follows := by intro f _ _ m member; cases member
            unused := by intro waits; cases waits
            bound := by intro isBound; cases isBound
            unbound := fun _ isBound => fresh (.inl isBound) }
    · intro i j h k foundH foundK same
      rcases Pool.get_append_cases foundH with ⟨isLast, rfl⟩ | ⟨_, oldH⟩
      · rcases Pool.get_append_cases foundK with ⟨isLast', rfl⟩ | ⟨_, oldK⟩
        · exact isLast.trans isLast'.symm
        · exact absurd (.inr ⟨k, List.mem_of_getElem? oldK, same.symm⟩) fresh
      · rcases Pool.get_append_cases foundK with ⟨_, rfl⟩ | ⟨_, oldK⟩
        · exact absurd (.inr ⟨h, List.mem_of_getElem? oldH, same⟩) fresh
        · exact inv.distinct i j h k oldH oldK same

/-- A connection that was not bound before has no frames, no session and no other
    handler. -/
theorem Sorted.bind (inv : Sorted s) {t : Handover B} {i : Nat} {h : ReconnectHandler B}
    (found : s.handlers[i]? = some h) {bound : Bool} (taken : s.bind i h bound = some t) : Sorted t := by
  unfold Handover.bind at taken
  cases phase : h.phase with
  | authorized =>
    rw [phase] at taken
    have fresh := (inv.tidy h (List.mem_of_getElem? found)).unbound phase
    cases bound with
    | false =>
      obtain rfl := Option.some.inj taken
      apply inv.move found
      · exact List.nil_sublist _
      · intro isBound
        cases isBound
      · simp
    | true =>
      obtain rfl := Option.some.inj taken
      refine { inv with handedBound := ?_, sessionBound := ?_, tidy := ?_, distinct := inv.distinct_set found _ }
      · intro f member
        exact List.mem_append_left _ (inv.handedBound f member)
      · intro c member
        exact List.mem_append_left _ (inv.sessionBound c member)
      · intro k isHandler
        obtain ⟨j, foundK⟩ := List.mem_iff_getElem?.mp isHandler
        rcases Pool.get_set_cases foundK with ⟨_, rfl⟩ | ⟨differ, old⟩
        · exact
            { replay := .nil
              replayLe := by intro m member; cases member
              follows := by intro f _ _ m member; cases member
              unused := by
                intro _
                constructor
                · intro f isHanded same
                  exact fresh (same ▸ inv.handedBound f isHanded)
                · intro c isConn same
                  exact fresh (same ▸ inv.sessionBound c isConn)
              bound := fun _ => List.mem_append_right _ (List.mem_singleton.mpr rfl)
              unbound := by intro waits; cases waits }
        · have tidy := inv.tidy k (List.mem_of_getElem? old)
          refine { tidy with bound := ?_, unbound := ?_ }
          · intro isBound
            exact List.mem_append_left _ (tidy.bound isBound)
          · intro waits isBound
            rcases List.mem_append.mp isBound with before | own
            · exact tidy.unbound waits before
            · have same := congrArg Connection.mk (List.mem_singleton.mp own)
              exact differ (inv.distinct i j h k found old same.symm)
  | bound => simp [phase] at taken
  | saving replay => simp [phase] at taken
  | replaying replay => simp [phase] at taken
  | done => simp [phase] at taken
  | refused => simp [phase] at taken

/-- The replay is what the outbox keeps, and the connection is still unused. -/
theorem Sorted.complete (inv : Sorted s) (config : SessionConfig) {i : Nat} {h : ReconnectHandler B}
    (found : s.handlers[i]? = some h) (phase : h.phase = .bound) (now : Nat) :
    Sorted (s.complete config i h now) := by
  have tidy := inv.tidy h (List.mem_of_getElem? found)
  have isBound : h.phase.isBound = true := by rw [phase]; rfl
  have shrinks := Stream.shrinks_completeReconnect inv.mirrors h.previous h.conn h.seq h.ack now config
  obtain ⟨kept, outcome⟩ :=
    Stream.completeReconnect_trims s.stream h.previous h.conn h.seq h.ack now config
  unfold Handover.complete
  dsimp only
  rcases outcome with ⟨⟨error, failed⟩, conn⟩ | ⟨⟨resumed, ok⟩, conn⟩
  · rw [failed]
    have trimmed := inv.trim shrinks ⟨kept, fun c member => conn ▸ member⟩
    apply trimmed.move found
    · exact List.nil_sublist _
    · intro _
      exact isBound
    · simp
  · rw [ok]
    -- the handler leaves `bound` together with the session's change of connection
    have noFrame := (tidy.unused phase).1
    have replay := (Stream.replayOf_sublist
      (s.stream.completeReconnect h.previous h.conn h.seq h.ack now config) h.ack).trans kept
    have waiting : s.Tidy { h with phase := .saving (Stream.replayOf
        (s.stream.completeReconnect h.previous h.conn h.seq h.ack now config) h.ack) } :=
      { replay := inv.kept.sublist replay
        replayLe := fun m member => inv.keptLe m (replay.subset member)
        follows := fun f isHanded same => absurd same (noFrame f isHanded)
        unused := by intro waits; cases waits
        bound := fun _ => tidy.bound isBound
        unbound := by intro waits; cases waits }
    apply (inv.with_handler found waiting).with_stream shrinks kept
    · intro c member
      obtain rfl := Option.some.inj (conn.symm.trans member)
      exact tidy.bound isBound
    · intro k isHandler waits c member same
      obtain rfl := Option.some.inj (conn.symm.trans member)
      obtain ⟨j, foundK⟩ := List.mem_iff_getElem?.mp isHandler
      rcases Pool.get_set_cases foundK with ⟨_, rfl⟩ | ⟨differ, old⟩
      · cases waits
      · exact differ (inv.distinct i j h k found old (congrArg Connection.mk same))

theorem Sorted.saved (inv : Sorted s) {t : Handover B} {i : Nat} {h : ReconnectHandler B}
    (found : s.handlers[i]? = some h) {ok : Bool} (taken : s.saved i h ok = some t) : Sorted t := by
  unfold Handover.saved at taken
  cases phase : h.phase with
  | saving replay =>
    rw [phase] at taken
    obtain rfl := Option.some.inj taken
    apply inv.move found
    · rw [phase]
      cases ok with
      | true => exact .refl _
      | false => exact List.nil_sublist _
    · intro _
      rw [phase]
      rfl
    · cases ok <;> simp
  | authorized => simp [phase] at taken
  | bound => simp [phase] at taken
  | replaying replay => simp [phase] at taken
  | done => simp [phase] at taken
  | refused => simp [phase] at taken

/-- The oldest message of the replay goes out. -/
theorem Sorted.replayNext (inv : Sorted s) {t : Handover B} {i : Nat} {h : ReconnectHandler B}
    (found : s.handlers[i]? = some h) {takes : Bool} (taken : s.replay i h takes = some t) : Sorted t := by
  have tidy := inv.tidy h (List.mem_of_getElem? found)
  unfold Handover.replay at taken
  split at taken
  case h_2 => cases taken
  case h_1 m rest phase =>
    have isBound : h.phase.isBound = true := by rw [phase]; rfl
    have left : h.phase.replay = m :: rest := by rw [phase]; rfl
    cases takes with
    | false =>
      obtain rfl := Option.some.inj taken
      apply inv.move found
      · exact List.nil_sublist _
      · intro _
        exact isBound
      · simp
    | true =>
      obtain rfl := Option.some.inj taken
      have order := tidy.replay
      rw [left] at order
      have moved : Sorted (s.setHandler i h (.replaying rest)) := by
        apply inv.move found
        · rw [left]
          exact List.sublist_cons_self m rest
        · intro _
          exact isBound
        · simp
      apply moved.hand
      · exact tidy.replayLe m (by rw [left]; exact List.mem_cons_self)
      · exact tidy.bound isBound
      · intro f isHanded same
        exact tidy.follows f isHanded same m (by rw [left]; exact List.mem_cons_self)
      · intro k isHandler same
        obtain ⟨j, foundK⟩ := List.mem_iff_getElem?.mp isHandler
        rcases Pool.get_set_cases foundK with ⟨_, rfl⟩ | ⟨differ, old⟩
        · refine ⟨by simp, ?_⟩
          intro n member
          exact (List.pairwise_cons.mp order).1 n member
        · exact absurd (inv.distinct i j h k found old (congrArg Connection.mk same.symm)) differ

theorem Sorted.send (inv : Sorted s) (wire : Wire M B) (config : SessionConfig)
    {sessionId : SessionId} {msgid : MsgId} {message : M} {now : Nat} {takes : Bool}
    (waits : s.Waits (.send sessionId msgid message now takes)) :
    Sorted (s.send wire config sessionId msgid message now takes) := by
  unfold Handover.send
  cases active : s.stream.session.conn with
  | none => exact inv
  | some conn =>
    dsimp only
    by_cases mismatch : s.stream.session.sessionId ≠ sessionId
    · rw [if_pos mismatch]
      exact inv
    · rw [if_neg mismatch]
      apply inv.emit
      · exact inv.sessionBound conn active
      · intro h isHandler waiting same
        exact ((inv.tidy h isHandler).unused waiting).2 conn active same.symm
      · intro accepts
        exact waits accepts (not_not.mp mismatch) conn active

theorem Sorted.kick (inv : Sorted s) (wire : Wire M B) (config : SessionConfig)
    {sessionId : SessionId} {message : M} {now : Nat} {takes : Bool}
    (waits : s.Waits (.kick sessionId message now takes)) :
    Sorted (s.kick wire config sessionId message now takes) := by
  unfold Handover.kick
  by_cases mismatch : s.stream.session.sessionId ≠ sessionId
  · rw [if_pos mismatch]
    exact inv
  · rw [if_neg mismatch]
    have sameSeq : ({ s.stream.session with conn := none } : ClientSession B).serverSeq =
        s.stream.session.serverSeq := rfl
    have shrinks := (Stream.shrinks_later none inv.mirrors s.stream.clock).with_session sameSeq rfl
    have taken := inv.trim shrinks ⟨.refl _, fun c member => by cases member⟩
    cases active : s.stream.session.conn with
    | none => exact taken
    | some conn =>
      apply taken.emit
      · exact inv.sessionBound conn active
      · intro h isHandler waiting same
        exact ((inv.tidy h isHandler).unused waiting).2 conn active same.symm
      · intro accepts
        exact waits accepts (not_not.mp mismatch) conn active

theorem sorted_step (wire : Wire M B) (config : SessionConfig) (inv : Sorted s) {l : Label M}
    {t : Handover B} (waits : s.Waits l) (taken : s.step wire config l = some t) : Sorted t := by
  cases l with
  | send sessionId msgid message now takes =>
    obtain rfl := Option.some.inj taken
    exact inv.send wire config waits
  | kick sessionId message now takes =>
    obtain rfl := Option.some.inj taken
    exact inv.kick wire config waits
  | sequence sessionId seq ack now =>
    obtain rfl := Option.some.inj taken
    exact inv.trim (Stream.shrinks_acceptSequence inv.mirrors sessionId seq ack now config)
      (Stream.trims_acceptSequence s.stream sessionId seq ack now config)
  | request sessionId seq ack now =>
    obtain rfl := Option.some.inj taken
    exact inv.trim (Stream.shrinks_acceptRequest inv.mirrors sessionId seq ack now config)
      (Stream.trims_acceptRequest s.stream sessionId seq ack now config)
  | disconnect sessionId now =>
    obtain rfl := Option.some.inj taken
    exact inv.trim (Stream.shrinks_disconnect inv.mirrors sessionId now)
      (Stream.trims_disconnect s.stream sessionId now)
  | authorize previous conn seq ack now =>
    simp only [Handover.step, Option.ite_none_left_eq_some, Option.some.injEq] at taken
    obtain ⟨fresh, rfl⟩ := taken
    exact inv.authorize config previous fresh seq ack now
  | bind i bound =>
    obtain ⟨h, found, taken⟩ := Option.bind_eq_some_iff.mp taken
    exact inv.bind found taken
  | complete i now =>
    obtain ⟨h, found, taken⟩ := Option.bind_eq_some_iff.mp taken
    split at taken
    case h_1 phase =>
      obtain rfl := Option.some.inj taken
      exact inv.complete config found phase now
    case h_2 => cases taken
  | saved i ok =>
    obtain ⟨h, found, taken⟩ := Option.bind_eq_some_iff.mp taken
    exact inv.saved found taken
  | replay i takes =>
    obtain ⟨h, found, taken⟩ := Option.bind_eq_some_iff.mp taken
    exact inv.replayNext found taken

theorem sorted_of_reach {wire : Wire M B} {config : ValidSessionConfig}
    (reached : (system wire config).Reach Waits s) : Sorted s := by
  apply reached.inv
  · rintro _ ⟨conn, routes, clientSeq, now, rfl⟩
    exact sorted_new conn routes clientSeq now
  · intro s l t inv waits taken
    exact sorted_step wire config.toSessionConfig inv waits taken

theorem Sorted.rising (inv : Sorted s) (conn : SessionId) : Rising (s.frames conn) := by
  have filtered : (s.frames conn).Pairwise fun f g => f.number < g.number := by
    apply List.Pairwise.filter _ inv.handed |>.imp_of_mem
    intro f g isFirst isLater older
    have onConn := (List.mem_filter.mp isFirst).2
    have onConn' := (List.mem_filter.mp isLater).2
    simp only [decide_eq_true_eq] at onConn onConn'
    exact older (onConn.trans onConn'.symm)
  apply filtered.imp
  intro f g older
  refine ⟨older, ?_⟩
  intro near
  rw [seqAfter, Frame.seq, Frame.seq, Serial.after_ofNat near (by omega)]
  exact decide_eq_true older

/-- When nothing is handed to a connection before its replay is through, the
    frames of every connection rise. -/
theorem frames_rise (wire : Wire M B) (config : ValidSessionConfig) {s : Handover B}
    (reached : (system wire config).Reach Waits s) (conn : SessionId) : Rising (s.frames conn) :=
  (sorted_of_reach reached).rising conn

/-- The connection of the player drops after a notice, and the next connection
    gets the notice again before the response to the reconnect. -/
def resumeInOrder : List (Label Unit) :=
  [.send 7 .mailInfoNtf () 1 true, .disconnect 7 2, .authorize 7 ⟨8⟩ 1 0 3, .bind 0 true, .complete 0 4,
    .saved 0 true, .replay 0 true, .send 8 .reconnectRsp () 5 true]

theorem resumeInOrder_rises : ∃ s : Handover CsHead,
    s.frames 8 = [⟨8, 1⟩, ⟨8, 2⟩] ∧ ∀ conn, Rising (s.frames conn) := by
  have run : ∃ s, System.follow Waits (step Stream.headWire SessionConfig.HARD_LIMITS)
      (.new ⟨7⟩ ⟨1, 2⟩ 0 0) resumeInOrder = some s ∧ s.frames 8 = [⟨8, 1⟩, ⟨8, 2⟩] := by
    decide +kernel
  obtain ⟨s, followed, frames⟩ := run
  exact ⟨s, frames, frames_rise Stream.headWire .hardLimits
    (System.reach_of_follow ⟨_, _, _, _, rfl⟩ followed)⟩

/-- A notice is pushed while the record of the reconnect is being saved. -/
def pushedWhileSaving : List (Label Unit) :=
  [.send 7 .mailInfoNtf () 1 true, .disconnect 7 2, .authorize 7 ⟨8⟩ 1 0 3, .bind 0 true, .complete 0 4,
    .send 8 .mailInfoNtf () 5 true, .saved 0 true, .replay 0 true]

theorem pushedWhileSaving_falls :
    ¬ ∀ s : Handover CsHead, (system Stream.headWire .hardLimits).Reach System.Any s →
      ∀ conn, Rising (s.frames conn) := by
  intro rises
  have overtaken : ∃ s, System.follow System.Any (step Stream.headWire SessionConfig.HARD_LIMITS)
      (.new ⟨7⟩ ⟨1, 2⟩ 0 0) pushedWhileSaving = some s ∧ s.frames 8 = [⟨8, 2⟩, ⟨8, 1⟩] := by
    decide +kernel
  obtain ⟨s, followed, frames⟩ := overtaken
  have order := rises s (System.reach_of_follow ⟨_, _, _, _, rfl⟩ followed) 8
  rw [frames] at order
  revert order
  decide

end Handover

end Xkk.Gate
