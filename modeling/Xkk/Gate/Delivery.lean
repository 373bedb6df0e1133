import Xkk.Gate.Stream

/-! # What the client has seen

A message gets its sequence and its place in the outbox before the transport
may refuse it.  `Delivery` puts a client and its connections around one stream:
frames that a connection accepted arrive in order until the connection closes,
the client presents the highest sequence it received, and a reconnect replays
what the outbox holds.

The question is whether a cumulative acknowledgement can remove a message that
the client never received.  It can: the connection stays in use after it refused
a message, and the replay of a reconnect is not ordered before other sends.
`Orderly` is what is missing.
-/

namespace Xkk.Gate

open Xkk.Lib

namespace Stream

variable {M B : Type} {s t : Stream B}

/-! ## What an operation takes out of the outbox -/

/-- What an operation other than `encode` can do: messages leave the outbox, and
    those that `acknowledge_outbox` removes are not after the acknowledgement. -/
structure Shrinks (ack : Option Nat) (s t : Stream B) : Prop where
  serverSeq : t.session.serverSeq = s.session.serverSeq
  mirrors : t.Mirrors
  count : t.count = s.count
  kept : ∀ m ∈ t.kept, m ∈ s.kept
  acknowledged : ∀ n ∈ t.acknowledged, n ∈ s.acknowledged
    ∨ ∃ m ∈ s.kept, m.number = n ∧ ∃ a ∈ ack, seqAfter m.message.seq (UInt32.ofNat a) = false

theorem shrinks_later (ack : Option Nat) (mirrors : s.Mirrors) (now : Nat) :
    Shrinks ack s { s with clock := now } :=
  ⟨rfl, mirrors, rfl, fun _ member => member, fun _ member => .inl member⟩

theorem Shrinks.with_session {ack : Option Nat} (shrinks : Shrinks ack s t) {session : ClientSession B}
    (serverSeq : session.serverSeq = t.session.serverSeq) (outbox : session.outbox = t.session.outbox) :
    Shrinks ack s { t with session := session } :=
  ⟨serverSeq.trans shrinks.serverSeq, outbox.trans shrinks.mirrors, shrinks.count, shrinks.kept,
    shrinks.acknowledged⟩

theorem shrinks_prune (ack : Option Nat) (mirrors : s.Mirrors) (now ttl : Nat) :
    Shrinks ack s (s.prune now ttl) := by
  obtain ⟨_, kept, pruned⟩ := prune_kept mirrors now ttl
  refine ⟨rfl, pruned, rfl, ?_, fun _ member => .inl member⟩
  intro m member
  rw [kept] at member
  exact (List.dropWhile_sublist _).subset member

theorem shrinks_acknowledge (mirrors : s.Mirrors) (ack : Nat) :
    Shrinks (some ack) s (s.acknowledge ack) := by
  obtain ⟨taken, rest, outbox⟩ := depart_of_dropWhile mirrors
    (s.session.acknowledgeOutbox (UInt32.ofNat ack)) rfl
  refine ⟨rfl, outbox, rfl, fun m member => List.mem_of_mem_drop member, ?_⟩
  intro n member
  rcases List.mem_append.mp member with before | removed
  · exact .inl before
  · rw [taken] at removed
    obtain ⟨m, popped, rfl⟩ := List.mem_map.mp removed
    refine .inr ⟨m, (List.takeWhile_sublist _).subset popped, rfl, ack, rfl, ?_⟩
    simpa using List.mem_takeWhile_imp popped

theorem Shrinks.trans {u : Stream B} {ack : Option Nat} (first : Shrinks ack s t)
    (second : Shrinks ack t u) : Shrinks ack s u := by
  refine ⟨second.serverSeq.trans first.serverSeq, second.mirrors, second.count.trans first.count,
    fun m member => first.kept m (second.kept m member), ?_⟩
  intro n member
  rcases second.acknowledged n member with before | ⟨m, isKept, same, notAfter⟩
  · exact first.acknowledged n before
  · exact .inr ⟨m, first.kept m isKept, same, notAfter⟩

theorem shrinks_acceptSequence (mirrors : s.Mirrors) (sessionId : SessionId) (seq : UInt32)
    (ack now : Nat) (config : SessionConfig) :
    Shrinks (some ack) s (s.acceptSequence sessionId seq ack now config) := by
  have still := shrinks_later (some ack) mirrors now
  have pruned := still.trans (shrinks_prune (some ack) still.mirrors now config.resumeTtl)
  rcases s.session.acceptSequence_cases sessionId seq (UInt32.ofNat ack) now config.resumeTtl with
    ⟨error, result⟩ | ⟨_, _, _, result⟩
  · simp only [acceptSequence, result]
    exact still
  · simp only [acceptSequence, result]
    exact (pruned.trans (shrinks_acknowledge pruned.mirrors ack)).with_session rfl rfl

theorem shrinks_acceptRequest (mirrors : s.Mirrors) (sessionId : SessionId) (seq : UInt32)
    (ack now : Nat) (config : SessionConfig) :
    Shrinks (some ack) s (s.acceptRequest sessionId seq ack now config) := by
  have accepted := shrinks_acceptSequence mirrors sessionId seq ack now config
  obtain ⟨times, same⟩ := s.session.acceptRequest_snd sessionId seq (UInt32.ofNat ack) now config
  rw [← acceptSequence_session] at same
  refine accepted.with_session ?_ ?_ <;> rw [same]

theorem shrinks_authorizeReconnect (mirrors : s.Mirrors) (previous : SessionId)
    (clientSeq : UInt32) (ack now : Nat) (config : SessionConfig) :
    Shrinks none s (s.authorizeReconnect previous clientSeq ack now config) := by
  have still := shrinks_later none mirrors now
  rcases s.session.authorizeReconnect_cases previous clientSeq (UInt32.ofNat ack) now config with
    ⟨refused, result⟩ | ⟨granted, count, times, result⟩
  · simp only [authorizeReconnect, refused, result]
    exact still
  · simp only [authorizeReconnect, granted, result, if_true]
    exact (still.trans (shrinks_prune none still.mirrors now config.resumeTtl)).with_session rfl rfl

theorem shrinks_completeReconnect (mirrors : s.Mirrors) (previous : SessionId)
    (conn : Connection) (clientSeq : UInt32) (ack now : Nat) (config : SessionConfig) :
    Shrinks (some ack) s (s.completeReconnect previous conn clientSeq ack now config) := by
  have still := shrinks_later (some ack) mirrors now
  have pruned := still.trans (shrinks_prune (some ack) still.mirrors now config.resumeTtl)
  rcases s.session.completeReconnect_cases previous conn clientSeq (UInt32.ofNat ack) now config with
    ⟨_, result⟩ | ⟨_, _, result⟩ | ⟨_, _, result⟩
  · simp only [completeReconnect, result]
    exact still
  · simp only [completeReconnect, result]
    exact pruned
  · simp only [completeReconnect, result]
    exact (pruned.trans (shrinks_acknowledge pruned.mirrors ack)).with_session rfl rfl

theorem shrinks_disconnect (mirrors : s.Mirrors) (sessionId : SessionId) (now : Nat) :
    Shrinks none s (s.disconnect sessionId now) := by
  have still := shrinks_later none mirrors now
  rcases s.session.disconnect_snd sessionId now with result | result
  · exact still.with_session (by rw [result]) (by rw [result])
  · exact still.with_session (by rw [result]) (by rw [result])

/-- The messages that `encode` leaves in the outbox beside its own. -/
def room (s : Stream B) (systemMsgIdEnd : UInt16) (msgid : MsgId) (now : Nat)
    (config : SessionConfig) : List (Issued B) :=
  if isOutboxMessage systemMsgIdEnd msgid.asU16 then (s.makeRoom now config).kept else s.kept

theorem shrinks_makeRoom (mirrors : s.Mirrors) (now : Nat) (config : SessionConfig) :
    Shrinks none s (s.makeRoom now config) := by
  have pruned := shrinks_prune none mirrors now config.resumeTtl
  rw [makeRoom]
  split
  · refine pruned.trans ⟨?_, mirrors_evict pruned.mirrors, rfl, ?_, fun _ member => .inl member⟩
    · change (ClientSession.evictOldest _).serverSeq = _
      unfold ClientSession.evictOldest
      split <;> rfl
    · intro m member
      exact List.mem_of_mem_drop member
  · exact pruned

/-- What `encode` can do. -/
structure Grows (left : List (Issued B)) (s t : Stream B) : Prop where
  serverSeq : t.session.serverSeq = s.session.serverSeq + 1
  mirrors : t.Mirrors
  count : t.count = s.count + 1
  kept : ∀ m ∈ t.kept, m.number = s.count + 1 ∨ m ∈ left ∧ m ∈ s.kept
  acknowledged : ∀ n ∈ t.acknowledged, n ∈ s.acknowledged

theorem grows_encode (wire : Wire M B) (serverSeq : s.session.serverSeq = UInt32.ofNat s.count)
    (mirrors : s.Mirrors) (msgid : MsgId) (message : M) (now : Nat) (config : SessionConfig) :
    Grows (if (s.session.encode wire msgid message now config).1.isSome
        then s.room wire.systemMsgIdEnd msgid now config else s.kept) s
      (s.encode wire msgid message now config) := by
  have next : s.session.serverSeq + 1 = UInt32.ofNat (s.count + 1) := by
    rw [serverSeq, UInt32.ofNat_add]
    rfl
  cases written : wire.encodeMessage
      ⟨msgid.asU16, s.session.serverSeq + 1, s.session.clientSeq⟩ message with
  | none =>
    simp only [encode, ClientSession.encode, written]
    exact ⟨rfl, mirrors, rfl, fun m member => .inr ⟨member, member⟩, fun _ member => member⟩
  | some bytes =>
    by_cases eligible : isOutboxMessage wire.systemMsgIdEnd msgid.asU16 = true
    · have left : s.room wire.systemMsgIdEnd msgid now config =
          ((s.advance now).makeRoom now config).kept := by
        rw [Stream.room, if_pos eligible, makeRoom, makeRoom, apply_ite Stream.kept,
          apply_ite Stream.kept]
        rfl
      have shrinks := shrinks_makeRoom (s := s.advance now) mirrors now config
      have counted : ((s.advance now).makeRoom now config).session.serverSeq =
          UInt32.ofNat ((s.advance now).makeRoom now config).count := by
        rw [shrinks.serverSeq, shrinks.count]
        exact next
      have appended := mirrors_append counted shrinks.mirrors now bytes
      have serverSeq' := shrinks.serverSeq
      rw [makeRoom_session] at appended serverSeq'
      simp only [encode, ClientSession.encode, written, eligible, if_true, Option.isSome_some]
      refine ⟨serverSeq', appended, shrinks.count, ?_, ?_⟩
      · intro m member
        rw [left]
        rcases List.mem_append.mp member with before | new
        · exact .inr ⟨before, shrinks.kept m before⟩
        · rw [List.mem_singleton.mp new]
          exact .inl shrinks.count
      · intro n member
        exact (makeRoom_acknowledged (s.advance now) now config) ▸ member
    · simp only [encode, ClientSession.encode, written, eligible, Stream.room]
      exact ⟨rfl, mirrors, rfl, fun m member => .inr ⟨member, member⟩, fun _ member => member⟩

end Stream

/-! ## A client around the stream -/

/-- What a client sends; `ack` is the highest sequence it had received. -/
inductive Uplink where
  | sequence (conn : SessionId) (seq : UInt32) (ack : Nat)   -- `AckNtf`, `PingReq`
  | request (conn : SessionId) (seq : UInt32) (ack : Nat)
  | reconnect (previous conn : SessionId) (seq : UInt32) (ack : Nat)
deriving DecidableEq, Repr

def Uplink.ack : Uplink → Nat
  | .sequence _ _ ack | .request _ _ ack | .reconnect _ _ _ ack => ack

/-- A `handle_reconnect` that was authorized; `replay` is filled in by
    `complete_reconnect` and then sent from the front. -/
structure Resume (B : Type) where
  previous : SessionId
  conn : Connection
  seq : UInt32
  ack : Nat
  replay : Option (List (Issued B))
deriving DecidableEq, Repr

structure Delivery (B : Type) where
  stream : Stream B
  ended : Bool                  -- the session was kicked out of the table
  client : Option SessionId     -- the connection that the client uses
  dialled : List SessionId      -- every connection it has used
  accepted : List Nat           -- what the client's connection has accepted
  flight : List Nat             -- the part of it that has not arrived yet
  received : List Nat           -- what the client received on the stream
  uplinks : List Uplink
  resumes : List (Resume B)
deriving DecidableEq, Repr

namespace Delivery

variable {M B : Type}

def new (conn : Connection) (routes : Routes) (clientSeq : UInt32) (now : Nat) : Delivery B where
  stream := .new conn routes clientSeq now
  ended := false
  client := some conn.sessionId
  dialled := [conn.sessionId]
  accepted := []
  flight := []
  received := []
  uplinks := []
  resumes := []

def highest (s : Delivery B) : Nat := s.received.foldl max 0

/-- A connection that the client has left swallows the frame. -/
def deliver (s : Delivery B) (conn : SessionId) (number : Nat) : Delivery B :=
  if s.client = some conn then
    { s with accepted := s.accepted ++ [number], flight := s.flight ++ [number] }
  else s

/-- `ClientSessions::send`; `takes` is the answer of `send_shared`. -/
def send (wire : Wire M B) (config : SessionConfig) (s : Delivery B) (sessionId : SessionId)
    (msgid : MsgId) (message : M) (now : Nat) (takes : Bool) : Delivery B :=
  match s.stream.session.conn with
  | none => s
  | some conn =>
    if s.stream.session.sessionId ≠ sessionId then s
    else
      let payload := (s.stream.session.encode wire msgid message now config).1
      let t := { s with stream := s.stream.encode wire msgid message now config }
      if payload.isSome && takes then t.deliver conn.sessionId t.stream.count else t

def handle (config : SessionConfig) (s : Delivery B) (now : Nat) : Uplink → Delivery B
  | .sequence conn seq ack => { s with stream := s.stream.acceptSequence conn seq ack now config }
  | .request conn seq ack => { s with stream := s.stream.acceptRequest conn seq ack now config }
  | .reconnect previous conn seq ack =>
    let granted :=
      (s.stream.session.authorizeReconnect previous seq (UInt32.ofNat ack) now config).1
    let t := { s with stream := s.stream.authorizeReconnect previous seq ack now config }
    match granted with
    | .ok _ => { t with resumes := t.resumes ++ [⟨previous, ⟨conn⟩, seq, ack, none⟩] }
    | .error _ => t

def complete (config : SessionConfig) (s : Delivery B) (i : Nat) (r : Resume B) (now : Nat) :
    Delivery B :=
  let result := (s.stream.session.completeReconnect r.previous r.conn r.seq (UInt32.ofNat r.ack)
    now config).1
  let t := { s with stream := s.stream.completeReconnect r.previous r.conn r.seq r.ack now config }
  match result with
  | .ok _ => { t with resumes := t.resumes.set i { r with replay := some (t.stream.replayOf r.ack) } }
  | .error _ => { t with resumes := t.resumes.eraseIdx i }

inductive Label (M : Type) where
  | send (sessionId : SessionId) (msgid : MsgId) (message : M) (now : Nat) (takes : Bool)
  | receive
  | abandon                                              -- the client's connection closes
  | dial (conn : SessionId)
  | acknowledge (seq : UInt32)
  | request (seq : UInt32)
  | reconnect (previous : SessionId) (seq : UInt32)
  | handle (i : Nat) (now : Nat)
  | complete (i : Nat) (now : Nat)
  | replay (i : Nat) (takes : Bool)
  | disconnect (sessionId : SessionId) (now : Nat)
  | kick (sessionId : SessionId)
deriving DecidableEq, Repr

/-- One step.  Whatever needs the table entry is disabled once the entry is
    gone; frames that are on their way still arrive. -/
def step (wire : Wire M B) (config : SessionConfig) (s : Delivery B) :
    Label M → Option (Delivery B)
  | .send sessionId msgid message now takes =>
    if s.ended then none else some (s.send wire config sessionId msgid message now takes)
  | .receive =>
    match s.flight with
    | [] => none
    | number :: rest => some { s with received := s.received ++ [number], flight := rest }
  | .abandon => some { s with client := none, accepted := [], flight := [] }
  | .dial conn =>
    if s.client.isSome || conn ∈ s.dialled then none
    else some { s with client := some conn, dialled := s.dialled ++ [conn], accepted := [], flight := [] }
  | .acknowledge seq =>
    s.client.map fun conn => { s with uplinks := s.uplinks ++ [.sequence conn seq s.highest] }
  | .request seq =>
    s.client.map fun conn => { s with uplinks := s.uplinks ++ [.request conn seq s.highest] }
  | .reconnect previous seq =>
    s.client.map fun conn => { s with uplinks := s.uplinks ++ [.reconnect previous conn seq s.highest] }
  | .handle i now =>
    if s.ended then none
    else s.uplinks[i]?.map fun up => { s with uplinks := s.uplinks.eraseIdx i }.handle config now up
  | .complete i now =>
    if s.ended then none
    else
      s.resumes[i]?.bind fun r =>
        match r.replay with
        | none => some (s.complete config i r now)
        | some _ => none
  | .replay i takes =>
    s.resumes[i]?.bind fun r =>
      match r.replay with
      | some (m :: rest) =>
        -- a refusal ends the loop: the handler goes on to `kick_local`
        if takes then
          some ({ s with resumes := s.resumes.set i { r with replay := some rest } }.deliver
            r.conn.sessionId m.number)
        else some { s with resumes := s.resumes.eraseIdx i }
      | _ => none
  | .disconnect sessionId now =>
    if s.ended then none else some { s with stream := s.stream.disconnect sessionId now }
  | .kick sessionId =>
    if s.stream.session.sessionId = sessionId then some { s with ended := true } else none

def system (wire : Wire M B) (config : ValidSessionConfig) : System (Delivery B) (Label M) :=
  .ofFun (fun s => ∃ conn routes clientSeq now, s = .new conn routes clientSeq now)
    (step wire config.toSessionConfig)

/-- Only messages that the client received were acknowledged away. -/
def Seen (s : Delivery B) : Prop := ∀ n ∈ s.stream.acknowledged, n ∈ s.received

/-! ## The order that the connection has to keep -/

/-- A frame with this number may be accepted: the client's connection has
    accepted every earlier message that the outbox still holds. -/
def InOrder (s : Delivery B) (conn : SessionId) (number : Nat) (kept : List (Issued B)) : Prop :=
  s.client = some conn → ∀ m ∈ kept, m.number < number → m.number ∈ s.accepted

/-- No retained message is `2 ^ 31` or more after the presented sequence. -/
def Near (s : Delivery B) (ack : Nat) : Prop := ∀ m ∈ s.stream.kept, m.number < ack + 2 ^ 31

def Orderly (systemMsgIdEnd : UInt16) (config : SessionConfig) (s : Delivery B) : Label M → Prop
  | .send _ msgid _ now takes =>
    takes = true → ∀ conn ∈ s.stream.session.conn,
      s.InOrder conn.sessionId (s.stream.count + 1) (s.stream.room systemMsgIdEnd msgid now config)
  | .replay i takes =>
    takes = true → ∀ r ∈ s.resumes[i]?, ∀ m ∈ (r.replay.getD []).head?,
      s.InOrder r.conn.sessionId m.number s.stream.kept
  | .handle i _ => ∀ up ∈ s.uplinks[i]?, s.Near up.ack
  | .complete i _ => ∀ r ∈ s.resumes[i]?, s.Near r.ack
  | _ => True

instance (s : Delivery B) (conn : SessionId) (number : Nat) (kept : List (Issued B)) :
    Decidable (s.InOrder conn number kept) :=
  inferInstanceAs (Decidable (s.client = some conn → ∀ m ∈ kept, _ < _ → _ ∈ _))

instance (s : Delivery B) (ack : Nat) : Decidable (s.Near ack) :=
  inferInstanceAs (Decidable (∀ m ∈ s.stream.kept, _ < _))

instance (systemMsgIdEnd : UInt16) (config : SessionConfig) (s : Delivery B) (l : Label M) :
    Decidable (s.Orderly systemMsgIdEnd config l) :=
  match l with
  | .send .. => inferInstanceAs (Decidable (_ → ∀ conn ∈ s.stream.session.conn, s.InOrder _ _ _))
  | .replay i _ => inferInstanceAs (Decidable (_ → ∀ r ∈ s.resumes[i]?, ∀ m ∈ (_ : Option _), s.InOrder _ _ _))
  | .handle i _ => inferInstanceAs (Decidable (∀ up ∈ s.uplinks[i]?, s.Near _))
  | .complete i _ => inferInstanceAs (Decidable (∀ r ∈ s.resumes[i]?, s.Near _))
  | .receive | .abandon | .dial _ | .acknowledge _ | .request _ | .reconnect _ _ | .disconnect _ _
  | .kick _ => .isTrue trivial

instance (s : Delivery B) : Decidable s.Seen :=
  inferInstanceAs (Decidable (∀ n ∈ s.stream.acknowledged, n ∈ s.received))

/-! ## The invariant -/

structure Ordered (s : Delivery B) : Prop where
  serverSeq : s.stream.session.serverSeq = UInt32.ofNat s.stream.count
  mirrors : s.stream.Mirrors
  keptRange : ∀ m ∈ s.stream.kept, 0 < m.number ∧ m.number ≤ s.stream.count
  receivedLe : ∀ n ∈ s.received, n ≤ s.stream.count
  flightLe : ∀ n ∈ s.flight, n ≤ s.stream.count
  -- the client has everything in the outbox up to whatever it received
  receivedBelow : ∀ m ∈ s.stream.kept, ∀ n ∈ s.received, m.number ≤ n → m.number ∈ s.received
  -- and will have it when a frame arrives that is still on its way
  flightBelow : ∀ front number rest, s.flight = front ++ number :: rest →
    ∀ m ∈ s.stream.kept, m.number < number → m.number ∈ s.received ∨ m.number ∈ front
  acceptedArrives : ∀ n ∈ s.accepted, n ∈ s.received ∨ n ∈ s.flight
  replayLe : ∀ r ∈ s.resumes, ∀ m ∈ r.replay.getD [], m.number ≤ s.stream.count
  uplinkAck : ∀ up ∈ s.uplinks, up.ack = 0 ∨ up.ack ∈ s.received
  resumeAck : ∀ r ∈ s.resumes, r.ack = 0 ∨ r.ack ∈ s.received
  seen : s.Seen

variable {s : Delivery B}

theorem ordered_new (conn : Connection) (routes : Routes) (clientSeq : UInt32) (now : Nat) :
    Ordered (Delivery.new conn routes clientSeq now : Delivery B) where
  serverSeq := rfl
  mirrors := rfl
  keptRange := by intro m member; cases member
  receivedLe := by intro n member; cases member
  flightLe := by intro n member; cases member
  receivedBelow := by intro m member; cases member
  flightBelow := by intro front number rest _ m member; cases member
  acceptedArrives := by intro n member; cases member
  replayLe := by intro r member; cases member
  uplinkAck := by intro up member; cases member
  resumeAck := by intro r member; cases member
  seen := by intro n member; cases member

theorem highest_mem (s : Delivery B) : s.highest = 0 ∨ s.highest ∈ s.received := by
  have general : ∀ (l : List Nat) (start : Nat), l.foldl max start = start ∨ l.foldl max start ∈ l := by
    intro l
    induction l with
    | nil => intro start; exact .inl rfl
    | cons n rest ih =>
      intro start
      rw [List.foldl_cons]
      rcases ih (max start n) with same | member
      · rw [same]
        rcases Nat.le_total start n with le | le
        · exact .inr (by rw [Nat.max_eq_right le]; exact List.mem_cons_self)
        · exact .inl (Nat.max_eq_left le)
      · exact .inr (List.mem_cons_of_mem _ member)
  exact general s.received 0

/-- A message that an acknowledgement removes has been received, provided that
    it is not half the sequence space away. -/
theorem removed_received (inv : Ordered s) {ack : Nat} (presented : ack = 0 ∨ ack ∈ s.received)
    (near : s.Near ack) {m : Issued B} (isKept : m ∈ s.stream.kept)
    (notAfter : seqAfter m.message.seq (UInt32.ofNat ack) = false) : m.number ∈ s.received := by
  have le : m.number ≤ ack := by
    by_contra newer
    have after : seqAfter (UInt32.ofNat m.number) (UInt32.ofNat ack) = decide (ack < m.number) :=
      Serial.after_ofNat (near m isKept) (by omega)
    rw [show m.message.seq = UInt32.ofNat m.number from rfl, after] at notAfter
    simp only [decide_eq_false_iff_not] at notAfter
    omega
  rcases presented with rfl | member
  · have pos := (inv.keptRange m isKept).1
    omega
  · exact inv.receivedBelow m isKept ack member le

/-- The server handles an acknowledgement or lets messages go. -/
theorem Ordered.shrink (inv : Ordered s) {ack : Option Nat} {stream : Stream B}
    (shrinks : Stream.Shrinks ack s.stream stream)
    (presented : ∀ a ∈ ack, (a = 0 ∨ a ∈ s.received) ∧ s.Near a) :
    Ordered { s with stream := stream } where
  serverSeq := by
    change stream.session.serverSeq = UInt32.ofNat stream.count
    rw [shrinks.serverSeq, shrinks.count]
    exact inv.serverSeq
  mirrors := shrinks.mirrors
  keptRange := by
    intro m member
    change 0 < m.number ∧ m.number ≤ stream.count
    rw [shrinks.count]
    exact inv.keptRange m (shrinks.kept m member)
  receivedLe := by
    intro n member
    exact le_of_le_of_eq (inv.receivedLe n member) shrinks.count.symm
  flightLe := by
    intro n member
    exact le_of_le_of_eq (inv.flightLe n member) shrinks.count.symm
  receivedBelow := by
    intro m member
    exact inv.receivedBelow m (shrinks.kept m member)
  flightBelow := by
    intro front number rest split m member
    exact inv.flightBelow front number rest split m (shrinks.kept m member)
  acceptedArrives := inv.acceptedArrives
  replayLe := by
    intro r isResume m member
    exact le_of_le_of_eq (inv.replayLe r isResume m member) shrinks.count.symm
  uplinkAck := inv.uplinkAck
  resumeAck := inv.resumeAck
  seen := by
    intro n member
    rcases shrinks.acknowledged n member with before | ⟨m, isKept, rfl, a, isAck, notAfter⟩
    · exact inv.seen n before
    · obtain ⟨known, near⟩ := presented a isAck
      exact removed_received inv known near isKept notAfter

/-- A new message is after everything that is under way. -/
theorem Ordered.grow (inv : Ordered s) {left : List (Issued B)} {stream : Stream B}
    (grows : Stream.Grows left s.stream stream) : Ordered { s with stream := stream } where
  serverSeq := by
    change stream.session.serverSeq = UInt32.ofNat stream.count
    rw [grows.serverSeq, grows.count, inv.serverSeq, UInt32.ofNat_add]
    rfl
  mirrors := grows.mirrors
  keptRange := by
    intro m member
    change 0 < m.number ∧ m.number ≤ stream.count
    have count := grows.count
    rcases grows.kept m member with new | ⟨_, isKept⟩
    · omega
    · have range := inv.keptRange m isKept
      omega
  receivedLe := by
    intro n member
    have le := inv.receivedLe n member
    have count := grows.count
    change n ≤ stream.count
    omega
  flightLe := by
    intro n member
    have le := inv.flightLe n member
    have count := grows.count
    change n ≤ stream.count
    omega
  receivedBelow := by
    intro m member n isReceived le
    rcases grows.kept m member with new | ⟨_, isKept⟩
    · have bound := inv.receivedLe n isReceived
      omega
    · exact inv.receivedBelow m isKept n isReceived le
  flightBelow := by
    intro front number rest split m member lt
    rcases grows.kept m member with new | ⟨_, isKept⟩
    · have inFlight : number ∈ s.flight := by
        rw [show s.flight = front ++ number :: rest from split]
        simp
      have bound := inv.flightLe number inFlight
      omega
    · exact inv.flightBelow front number rest split m isKept lt
  acceptedArrives := inv.acceptedArrives
  replayLe := by
    intro r isResume m member
    have le := inv.replayLe r isResume m member
    have count := grows.count
    change m.number ≤ stream.count
    omega
  uplinkAck := inv.uplinkAck
  resumeAck := inv.resumeAck
  seen := by
    intro n member
    exact inv.seen n (grows.acknowledged n member)

theorem ordered_deliver (inv : Ordered s) (conn : SessionId) {number : Nat}
    (le : number ≤ s.stream.count) (inOrder : s.InOrder conn number s.stream.kept) :
    Ordered (s.deliver conn number) := by
  unfold deliver
  split
  case isFalse => exact inv
  case isTrue uses =>
    refine { inv with flightLe := ?_, flightBelow := ?_, acceptedArrives := ?_ }
    · intro n member
      rcases List.mem_append.mp member with before | new
      · exact inv.flightLe n before
      · rw [List.mem_singleton.mp new]
        exact le
    · intro front last rest split m isKept lt
      -- either the frame was under way before, or it is the one just accepted
      rcases List.eq_nil_or_concat rest with rfl | ⟨rest, final, rfl⟩
      · obtain ⟨rfl, same⟩ := List.append_inj' (split : s.flight ++ [number] = front ++ [last]) rfl
        obtain rfl := List.singleton_inj.mp same
        exact inv.acceptedArrives _ (inOrder uses m isKept lt)
      · have regrouped : s.flight ++ [number] = (front ++ last :: rest) ++ [final] := by
          simpa using split
        exact inv.flightBelow front last rest (List.append_inj' regrouped rfl).1 m isKept lt
    · intro n member
      rcases List.mem_append.mp member with before | new
      · rcases inv.acceptedArrives n before with arrived | coming
        · exact .inl arrived
        · exact .inr (List.mem_append_left _ coming)
      · exact .inr (List.mem_append_right _ new)

theorem ordered_send (wire : Wire M B) (config : SessionConfig) (inv : Ordered s)
    (sessionId : SessionId) (msgid : MsgId) (message : M) (now : Nat) (takes : Bool)
    (orderly : s.Orderly wire.systemMsgIdEnd config (.send sessionId msgid message now takes)) :
    Ordered (s.send wire config sessionId msgid message now takes) := by
  unfold send
  cases active : s.stream.session.conn with
  | none => exact inv
  | some conn =>
    have grows := Stream.grows_encode wire inv.serverSeq inv.mirrors msgid message now config
    have encoded := inv.grow grows
    by_cases mismatch : s.stream.session.sessionId ≠ sessionId
    · simp only [if_pos mismatch]
      exact inv
    · simp only [if_neg mismatch]
      by_cases goes : ((s.stream.session.encode wire msgid message now config).1.isSome && takes) = true
      · rw [if_pos goes]
        obtain ⟨isSome, accepts⟩ := Bool.and_eq_true_iff.mp goes
        rw [if_pos isSome] at grows
        refine ordered_deliver encoded conn.sessionId (Nat.le_refl _) ?_
        intro uses m member lt
        have count := grows.count
        have lt : m.number < (s.stream.encode wire msgid message now config).count := lt
        rcases grows.kept m member with new | ⟨isLeft, _⟩
        · omega
        · exact orderly accepts conn active uses m isLeft (by omega)
      · rw [if_neg goes]
        exact encoded

theorem ordered_receive (inv : Ordered s) {number : Nat} {rest : List Nat}
    (flight : s.flight = number :: rest) :
    Ordered { s with received := s.received ++ [number], flight := rest } where
  serverSeq := inv.serverSeq
  mirrors := inv.mirrors
  keptRange := inv.keptRange
  receivedLe := by
    intro n member
    rcases List.mem_append.mp member with before | new
    · exact inv.receivedLe n before
    · rw [List.mem_singleton.mp new]
      exact inv.flightLe number (by rw [flight]; exact List.mem_cons_self)
  flightLe := by
    intro n member
    exact inv.flightLe n (by rw [flight]; exact List.mem_cons_of_mem _ member)
  receivedBelow := by
    intro m isKept n member le
    rcases List.mem_append.mp member with before | new
    · exact List.mem_append_left _ (inv.receivedBelow m isKept n before le)
    · obtain rfl := List.mem_singleton.mp new
      rcases Nat.lt_or_eq_of_le le with lt | same
      · -- the frame was first in the queue, so nothing before it is outstanding
        rcases inv.flightBelow [] n rest flight m isKept lt with arrived | coming
        · exact List.mem_append_left _ arrived
        · cases coming
      · rw [same]
        exact List.mem_append_right _ new
  flightBelow := by
    intro front last tail split m isKept lt
    have whole : s.flight = (number :: front) ++ last :: tail := by
      rw [flight, show rest = front ++ last :: tail from split]
      rfl
    rcases inv.flightBelow (number :: front) last tail whole m isKept lt with arrived | coming
    · exact .inl (List.mem_append_left _ arrived)
    · rcases List.mem_cons.mp coming with same | coming
      · exact .inl (by rw [same]; simp)
      · exact .inr coming
  acceptedArrives := by
    intro n member
    rcases inv.acceptedArrives n member with arrived | coming
    · exact .inl (List.mem_append_left _ arrived)
    · rw [flight] at coming
      rcases List.mem_cons.mp coming with same | coming
      · exact .inl (by rw [same]; simp)
      · exact .inr coming
  replayLe := inv.replayLe
  uplinkAck := by
    intro up member
    exact (inv.uplinkAck up member).imp_right (List.mem_append_left _)
  resumeAck := by
    intro r member
    exact (inv.resumeAck r member).imp_right (List.mem_append_left _)
  seen := by
    intro n member
    exact List.mem_append_left _ (inv.seen n member)

theorem ordered_handle (config : SessionConfig) (inv : Ordered s) (now : Nat) (up : Uplink)
    (presented : up.ack = 0 ∨ up.ack ∈ s.received) (near : s.Near up.ack) :
    Ordered (s.handle config now up) := by
  cases up with
  | sequence conn seq ack =>
    refine inv.shrink (Stream.shrinks_acceptSequence inv.mirrors conn seq ack now config) ?_
    rintro _ ⟨⟩
    exact ⟨presented, near⟩
  | request conn seq ack =>
    refine inv.shrink (Stream.shrinks_acceptRequest inv.mirrors conn seq ack now config) ?_
    rintro _ ⟨⟩
    exact ⟨presented, near⟩
  | reconnect previous conn seq ack =>
    have pruned := inv.shrink
      (Stream.shrinks_authorizeReconnect inv.mirrors previous seq ack now config) (by simp)
    simp only [handle]
    split
    · refine { pruned with replayLe := ?_, resumeAck := ?_ }
      · intro r isResume m member
        rcases List.mem_append.mp isResume with before | new
        · exact pruned.replayLe r before m member
        · rw [List.mem_singleton.mp new] at member
          cases member
      · intro r isResume
        rcases List.mem_append.mp isResume with before | new
        · exact inv.resumeAck r before
        · rw [List.mem_singleton.mp new]
          exact presented
    · exact pruned

/-- The handler of a reconnect moves on. -/
theorem Ordered.with_resume (inv : Ordered s) (i : Nat) (r : Resume B)
    (ack : r.ack = 0 ∨ r.ack ∈ s.received)
    (replay : ∀ m ∈ r.replay.getD [], m.number ≤ s.stream.count) :
    Ordered { s with resumes := s.resumes.set i r } := by
  refine { inv with replayLe := ?_, resumeAck := ?_ }
  · intro other member
    rcases List.mem_or_eq_of_mem_set member with before | rfl
    · exact inv.replayLe other before
    · exact replay
  · intro other member
    rcases List.mem_or_eq_of_mem_set member with before | rfl
    · exact inv.resumeAck other before
    · exact ack

theorem Ordered.without_resume (inv : Ordered s) (i : Nat) :
    Ordered { s with resumes := s.resumes.eraseIdx i } :=
  { inv with
    replayLe := fun r member => inv.replayLe r ((List.eraseIdx_sublist _ _).subset member)
    resumeAck := fun r member => inv.resumeAck r ((List.eraseIdx_sublist _ _).subset member) }

theorem ordered_complete (config : SessionConfig) (inv : Ordered s) {i : Nat} {r : Resume B}
    (found : s.resumes[i]? = some r) (now : Nat) (near : s.Near r.ack) :
    Ordered (s.complete config i r now) := by
  have isResume := List.mem_of_getElem? found
  have presented := inv.resumeAck r isResume
  have completed := inv.shrink
    (Stream.shrinks_completeReconnect inv.mirrors r.previous r.conn r.seq r.ack now config)
    (by rintro _ ⟨⟩; exact ⟨presented, near⟩)
  simp only [complete]
  split
  · refine completed.with_resume i { r with replay := _ } presented ?_
    intro m member
    exact (completed.keptRange m (List.mem_filter.mp member).1).2
  · exact completed.without_resume i

theorem ordered_replay (inv : Ordered s) {i : Nat} {r : Resume B}
    (found : s.resumes[i]? = some r) {m : Issued B} {rest : List (Issued B)}
    (replay : r.replay = some (m :: rest))
    (inOrder : s.InOrder r.conn.sessionId m.number s.stream.kept) :
    Ordered ({ s with resumes := s.resumes.set i { r with replay := some rest } }.deliver
      r.conn.sessionId m.number) := by
  have isResume := List.mem_of_getElem? found
  have numbers := inv.replayLe r isResume
  rw [replay] at numbers
  have moved := inv.with_resume i { r with replay := some rest } (inv.resumeAck r isResume)
    (fun m member => numbers m (List.mem_cons_of_mem _ member))
  exact ordered_deliver moved _ (numbers m List.mem_cons_self) inOrder

theorem Ordered.with_uplink (inv : Ordered s) (up : Uplink) (ack : up.ack = s.highest) :
    Ordered { s with uplinks := s.uplinks ++ [up] } := by
  refine { inv with uplinkAck := ?_ }
  intro other member
  rcases List.mem_append.mp member with before | new
  · exact inv.uplinkAck other before
  · rw [List.mem_singleton.mp new, ack]
    exact s.highest_mem

/-- The client leaves its connection, or opens a new one. -/
theorem Ordered.with_client (inv : Ordered s) (client : Option SessionId)
    (dialled : List SessionId) :
    Ordered { s with client := client, dialled := dialled, accepted := [], flight := [] } := by
  refine { inv with flightLe := ?_, flightBelow := ?_, acceptedArrives := ?_ }
  · intro n member
    cases member
  · intro front number rest split
    simp at split
  · intro n member
    cases member

theorem ordered_step (wire : Wire M B) {config : SessionConfig} (inv : Ordered s) {l : Label M}
    {t : Delivery B} (orderly : s.Orderly wire.systemMsgIdEnd config l)
    (taken : s.step wire config l = some t) : Ordered t := by
  cases l with
  | send sessionId msgid message now takes =>
    simp only [step, Option.ite_none_left_eq_some, Option.some.injEq] at taken
    obtain ⟨_, rfl⟩ := taken
    exact ordered_send wire config inv sessionId msgid message now takes orderly
  | receive =>
    simp only [step] at taken
    split at taken
    case h_1 => cases taken
    case h_2 number rest flight =>
      obtain rfl := Option.some.inj taken
      exact ordered_receive inv flight
  | abandon =>
    obtain rfl := Option.some.inj taken
    exact inv.with_client none s.dialled
  | dial conn =>
    simp only [step, Option.ite_none_left_eq_some, Option.some.injEq] at taken
    obtain ⟨_, rfl⟩ := taken
    exact inv.with_client (some conn) (s.dialled ++ [conn])
  | acknowledge seq =>
    simp only [step, Option.map_eq_some_iff] at taken
    obtain ⟨conn, _, rfl⟩ := taken
    exact inv.with_uplink (.sequence conn seq s.highest) rfl
  | request seq =>
    simp only [step, Option.map_eq_some_iff] at taken
    obtain ⟨conn, _, rfl⟩ := taken
    exact inv.with_uplink (.request conn seq s.highest) rfl
  | reconnect previous seq =>
    simp only [step, Option.map_eq_some_iff] at taken
    obtain ⟨conn, _, rfl⟩ := taken
    exact inv.with_uplink (.reconnect previous conn seq s.highest) rfl
  | handle i now =>
    simp only [step, Option.ite_none_left_eq_some, Option.map_eq_some_iff] at taken
    obtain ⟨_, up, found, rfl⟩ := taken
    have presented := inv.uplinkAck up (List.mem_of_getElem? found)
    have without : Ordered { s with uplinks := s.uplinks.eraseIdx i } :=
      { inv with
        uplinkAck := fun up member => inv.uplinkAck up ((List.eraseIdx_sublist _ _).subset member) }
    exact ordered_handle config without now up presented (orderly up found)
  | complete i now =>
    simp only [step, Option.ite_none_left_eq_some, Option.bind_eq_some_iff] at taken
    obtain ⟨_, r, found, taken⟩ := taken
    split at taken
    · obtain rfl := Option.some.inj taken
      exact ordered_complete config inv found now (orderly r found)
    · cases taken
  | replay i takes =>
    simp only [step, Option.bind_eq_some_iff] at taken
    obtain ⟨r, found, taken⟩ := taken
    split at taken
    case h_2 => cases taken
    case h_1 m rest replay =>
      cases takes with
      | false =>
        obtain rfl := Option.some.inj taken
        exact inv.without_resume i
      | true =>
        obtain rfl := Option.some.inj taken
        exact ordered_replay inv found replay (orderly rfl r found m (by rw [replay]; rfl))
  | disconnect sessionId now =>
    simp only [step, Option.ite_none_left_eq_some, Option.some.injEq] at taken
    obtain ⟨_, rfl⟩ := taken
    exact inv.shrink (Stream.shrinks_disconnect inv.mirrors sessionId now) (by simp)
  | kick sessionId =>
    simp only [step, Option.ite_none_right_eq_some, Option.some.injEq] at taken
    obtain ⟨_, rfl⟩ := taken
    exact { inv with }

/-- As long as each connection accepts the frames in order, every message that
    was acknowledged away was received. -/
theorem acknowledged_only_if_received (wire : Wire M B) (config : ValidSessionConfig)
    {s : Delivery B}
    (reached : (system wire config).Reach
      (fun s l => s.Orderly wire.systemMsgIdEnd config.toSessionConfig l) s) : s.Seen := by
  refine (reached.inv (I := Ordered) ?_ ?_).seen
  · rintro _ ⟨conn, routes, clientSeq, now, rfl⟩
    exact ordered_new conn routes clientSeq now
  · intro s l t inv orderly taken
    exact ordered_step wire inv orderly taken

def loggedIn : Delivery CsHead := .new ⟨7⟩ ⟨1, 2⟩ 0 0

/-- The connection refuses the first notice and accepts the second; the client
    acknowledges what it received. -/
def refusedNotice : List (Label Unit) :=
  [.send 7 .mailInfoNtf () 1 false, .send 7 .mailInfoNtf () 2 true, .receive, .acknowledge 1,
    .handle 0 3]

theorem refused_message_acknowledged_away :
    ¬ ∀ s : Delivery CsHead,
      (system Stream.headWire .hardLimits).Reach System.Any s → s.Seen := by
  intro seen
  have unseen : ∃ s, System.follow System.Any (step Stream.headWire SessionConfig.HARD_LIMITS)
      loggedIn refusedNotice = some s ∧ ¬ s.Seen := by
    decide +kernel
  obtain ⟨s, followed, lost⟩ := unseen
  exact lost (seen s (System.reach_of_follow ⟨_, _, _, _, rfl⟩ followed))

/-- A notice is lost with its connection, replayed to the next one and then
    acknowledged. -/
def replayedNotice : List (Label Unit) :=
  [.send 7 .mailInfoNtf () 1 true, .abandon, .disconnect 7 2, .dial 8, .reconnect 7 1,
    .handle 0 3, .complete 0 4, .replay 0 true, .receive, .acknowledge 2, .handle 0 5]

theorem replayedNotice_received :
    ∃ s : Delivery CsHead, s.stream.acknowledged = [1] ∧ s.Seen := by
  have run : ∃ s, System.follow (fun s l => s.Orderly Stream.headWire.systemMsgIdEnd
      SessionConfig.HARD_LIMITS l) (step Stream.headWire SessionConfig.HARD_LIMITS)
      loggedIn replayedNotice = some s ∧ s.stream.acknowledged = [1] := by
    decide +kernel
  obtain ⟨s, followed, acknowledged⟩ := run
  exact ⟨s, acknowledged, acknowledged_only_if_received Stream.headWire .hardLimits
    (System.reach_of_follow ⟨_, _, _, _, rfl⟩ followed)⟩

end Delivery

end Xkk.Gate
