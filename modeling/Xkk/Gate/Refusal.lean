import Xkk.Gate.Entries
import Xkk.Gate.Limits

/-! # Refused stream operations

`authorize_reconnect` and `complete_reconnect` refuse an outbox gap or a full
window only after they have pruned, so a refused call does change the session:
messages have left the outbox, `dropped_through` has moved and old reconnects
are forgotten.  Whatever reads these fields prunes them first.  Two sessions
that become equal by pruning at any later time are therefore indistinguishable,
and a refused call leaves such a session.

In the table, `prune_expired` removes a session for which no later reconnect would be
authorized.  `complete_reconnect` does not look at the time: a reconnect that was
authorized before can bring the session back as long as it is in the table.
-/

namespace Xkk.Gate

open Xkk.Lib

variable {M B : Type}

/-! ## The calls on one session -/

inductive SendError where
  | sessionMismatch
  | protocol
deriving DecidableEq, Repr

/-- `ClientSessions::send` under the session lock, up to `send_shared`. -/
def ClientSession.send (wire : Wire M B) (s : ClientSession B) (sessionId : SessionId) (msgid : MsgId)
    (message : M) (now : Nat) (config : SessionConfig) :
    Except SendError (Connection × B) × ClientSession B :=
  match s.conn with
  | none => (.error .sessionMismatch, s)
  | some conn =>
    if s.sessionId ≠ sessionId then (.error .sessionMismatch, s)
    else
      match s.encode wire msgid message now config with
      | (none, s) => (.error .protocol, s)
      | (some payload, s) => (.ok (conn, payload), s)

inductive Call (M : Type) where
  | send (sessionId : SessionId) (msgid : MsgId) (message : M) (now : Nat)
  | acceptRequest (sessionId : SessionId) (seq ack : UInt32) (now : Nat)
  | acceptSequence (sessionId : SessionId) (seq ack : UInt32) (now : Nat)
  | currentSession (now : Nat)
  | disconnect (sessionId : SessionId) (now : Nat)
  | kick (sessionId : SessionId) (message : M) (now : Nat)
  | authorizeReconnect (previous : SessionId) (clientSeq ack : UInt32) (now : Nat)
  | completeReconnect (previous : SessionId) (conn : Connection) (clientSeq ack : UInt32) (now : Nat)

/-- What the caller gets to see. -/
inductive Answer (B : Type) where
  | sent (result : Except SendError (Connection × B))
  | request (result : Except RequestError Routes)
  | sequence (result : Except RequestError Unit)
  | current (session : Option SessionId)
  | disconnected (routes : Option Routes)
  | kicked (wasActive : Option Bool) (notice : Option B)
  | authorized (result : Except ResumeError Routes)
  | completed (result : Except ResumeError (ReconnectResult B))

namespace Call

def time : Call M → Nat
  | .send _ _ _ now | .acceptRequest _ _ _ now | .acceptSequence _ _ _ now | .currentSession now
  | .disconnect _ now | .kick _ _ now | .authorizeReconnect _ _ _ now | .completeReconnect _ _ _ _ now => now

def exec (wire : Wire M B) (config : SessionConfig) (s : ClientSession B) :
    Call M → Answer B × ClientSession B
  | .send sessionId msgid message now =>
    let (result, s) := s.send wire sessionId msgid message now config
    (.sent result, s)
  | .acceptRequest sessionId seq ack now =>
    let (result, s) := s.acceptRequest sessionId seq ack now config
    (.request result, s)
  | .acceptSequence sessionId seq ack now =>
    let (result, s) := s.acceptSequence sessionId seq ack now config.resumeTtl
    (.sequence result, s)
  | .currentSession _ => (.current (if s.active then some s.sessionId else none), s)
  | .disconnect sessionId now =>
    let (result, s) := s.disconnect sessionId now
    (.disconnected result, s)
  | .kick sessionId message now =>
    let notice := ({ s with conn := none }.encode wire .kickNtf message now config).1
    let (result, s) := s.kick wire sessionId message now config
    (.kicked result (if result = some true then notice else none), s)
  | .authorizeReconnect previous clientSeq ack now =>
    let (result, s) := s.authorizeReconnect previous clientSeq ack now config
    (.authorized result, s)
  | .completeReconnect previous conn clientSeq ack now =>
    let (result, s) := s.completeReconnect previous conn clientSeq ack now config
    (.completed result, s)

/-- The answers to calls that are made one after another. -/
def answers (wire : Wire M B) (config : SessionConfig) : ClientSession B → List (Call M) → List (Answer B)
  | _, [] => []
  | s, call :: rest =>
    let (answer, s) := call.exec wire config s
    answer :: answers wire config s rest

end Call

/-- One of the three stream operations has answered an error. -/
def Answer.refused : Answer B → Bool
  | .sequence (.error _) | .authorized (.error _) | .completed (.error _) => true
  | _ => false

/-! ## Pruning twice -/

theorem dropWhile_dropWhile {α : Type} {p q : α → Bool} (weaker : ∀ a, p a = true → q a = true)
    (l : List α) : (l.dropWhile p).dropWhile q = l.dropWhile q := by
  induction l with
  | nil => rfl
  | cons a rest ih =>
    by_cases dropped : p a = true
    · rw [List.dropWhile_cons_of_pos dropped, List.dropWhile_cons_of_pos (weaker a dropped), ih]
    · rw [List.dropWhile_cons_of_neg dropped]

namespace ClientSession

/-- What is too old is too old later. -/
theorem pruneLoop_pruneLoop {t now ttl : Nat} (later : t ≤ now) (outbox : List (OutboxMessage B))
    (dropped : Option UInt32) :
    pruneLoop now ttl (pruneLoop t ttl outbox dropped).1 (pruneLoop t ttl outbox dropped).2
      = pruneLoop now ttl outbox dropped := by
  induction outbox generalizing dropped with
  | nil => rfl
  | cons message rest ih =>
    by_cases expired : t - message.sentAt > ttl
    · have expiredLater : now - message.sentAt > ttl := by omega
      simp only [pruneLoop, if_pos expired, if_pos expiredLater]
      exact ih (some message.seq)
    · simp only [pruneLoop, if_neg expired]

/-- Sessions that differ only in what every reader prunes from time `t` on. -/
inductive Alike (t : Nat) (config : SessionConfig) (s : ClientSession B) : ClientSession B → Prop
  | mk (outbox : List (OutboxMessage B)) (dropped : Option UInt32) (times : List Nat)
      (pruned : ∀ now, t ≤ now → pruneLoop now config.resumeTtl outbox dropped
        = pruneLoop now config.resumeTtl s.outbox s.droppedThrough)
      (window : ∀ now, t ≤ now → times.dropWhile (fun since => now - since ≥ config.reconnectWindow)
        = s.reconnectsInWindow now config) :
      Alike t config s { s with outbox := outbox, droppedThrough := dropped, reconnectTimes := times }

variable {t now : Nat} {config : SessionConfig} {s s' : ClientSession B}

theorem Alike.refl (s : ClientSession B) : Alike t config s s :=
  .mk s.outbox s.droppedThrough s.reconnectTimes (fun _ _ => rfl) (fun _ _ => rfl)

theorem Alike.eq (alike : Alike t config s s') :
    s' = { s with
      outbox := s'.outbox
      droppedThrough := s'.droppedThrough
      reconnectTimes := s'.reconnectTimes } := by
  cases alike
  rfl

/-- The same answer, and sessions that stay indistinguishable. -/
def SameOutcome {A : Type} (t : Nat) (config : SessionConfig) (r r' : A × ClientSession B) : Prop :=
  r'.1 = r.1 ∧ Alike t config r.2 r'.2

theorem Alike.prune (alike : Alike t config s s') (later : t ≤ now) :
    s'.pruneOutbox now config.resumeTtl
      = { s.pruneOutbox now config.resumeTtl with reconnectTimes := s'.reconnectTimes } := by
  cases alike with
  | mk outbox dropped times pruned window => simp only [pruneOutbox, pruned now later]

/-- Once both sessions are pruned, only the reconnects still differ. -/
theorem Alike.pruned (alike : Alike t config s s') {r : ClientSession B}
    (kept : r.reconnectTimes = s.reconnectTimes) :
    Alike t config r { r with reconnectTimes := s'.reconnectTimes } := by
  cases alike with
  | mk outbox dropped times pruned window =>
    refine .mk r.outbox r.droppedThrough times (fun _ _ => rfl) ?_
    intro now later
    rw [window now later, reconnectsInWindow, reconnectsInWindow, kept]

theorem Alike.makeRoom (alike : Alike t config s s') (later : t ≤ now) :
    s'.makeRoom now config = { s.makeRoom now config with reconnectTimes := s'.reconnectTimes } := by
  simp only [ClientSession.makeRoom, alike.prune later]
  split
  · simp only [evictOldest]
    split <;> rfl
  · rfl

theorem Alike.encode (alike : Alike t config s s') (later : t ≤ now) (wire : Wire M B) (msgid : MsgId)
    (message : M) :
    SameOutcome t config (s.encode wire msgid message now config)
      (s'.encode wire msgid message now config) := by
  have counted : Alike t config { s with serverSeq := s.serverSeq + 1 }
      { s' with serverSeq := s'.serverSeq + 1 } := by
    cases alike with
    | mk outbox dropped times pruned window => exact .mk outbox dropped times pruned window
  have heads : s'.serverSeq = s.serverSeq ∧ s'.clientSeq = s.clientSeq := by
    cases alike
    exact ⟨rfl, rfl⟩
  simp only [ClientSession.encode, heads.1, heads.2] at counted ⊢
  cases wire.encodeMessage ⟨msgid.asU16, s.serverSeq + 1, s.clientSeq⟩ message with
  | none => exact ⟨rfl, counted⟩
  | some payload =>
    dsimp only
    split
    · have room := counted.makeRoom later
      have kept := makeRoom_reconnects { s with serverSeq := s.serverSeq + 1 } now config
      rw [room]
      exact ⟨rfl, counted.pruned kept.times⟩
    · exact ⟨rfl, counted⟩

theorem Alike.send (alike : Alike t config s s') (later : t ≤ now) (wire : Wire M B) (sessionId : SessionId)
    (msgid : MsgId) (message : M) :
    SameOutcome t config (s.send wire sessionId msgid message now config)
      (s'.send wire sessionId msgid message now config) := by
  have encoded := alike.encode later wire msgid message
  have bound : s'.conn = s.conn ∧ s'.sessionId = s.sessionId := by
    cases alike
    exact ⟨rfl, rfl⟩
  simp only [ClientSession.send, bound.1, bound.2]
  cases s.conn with
  | none => exact ⟨rfl, alike⟩
  | some conn =>
    by_cases mismatch : s.sessionId ≠ sessionId
    · simp only [if_pos mismatch]
      exact ⟨rfl, alike⟩
    · simp only [if_neg mismatch]
      generalize s.encode wire msgid message now config = r at encoded
      generalize s'.encode wire msgid message now config = r' at encoded
      obtain ⟨payload, after⟩ := r
      obtain ⟨payload', after'⟩ := r'
      obtain ⟨rfl, still⟩ := encoded
      cases payload' with
      | none => exact ⟨rfl, still⟩
      | some payload => exact ⟨rfl, still⟩

theorem Alike.acceptSequence (alike : Alike t config s s') (later : t ≤ now) (sessionId : SessionId)
    (seq ack : UInt32) :
    SameOutcome t config (s.acceptSequence sessionId seq ack now config.resumeTtl)
      (s'.acceptSequence sessionId seq ack now config.resumeTtl) := by
  have moved : Alike t config { s with clientSeq := seq } { s' with clientSeq := seq } := by
    cases alike with
    | mk outbox dropped times pruned window => exact .mk outbox dropped times pruned window
  have checked : s'.sessionId = s.sessionId ∧ s'.active = s.active ∧ s'.clientSeq = s.clientSeq := by
    cases alike
    exact ⟨rfl, rfl, rfl⟩
  rw [ClientSession.acceptSequence, ClientSession.acceptSequence, moved.prune later, checked.1, checked.2.1,
    checked.2.2]
  split
  · exact ⟨rfl, alike⟩
  · split
    · exact ⟨rfl, alike⟩
    · exact ⟨rfl, moved.pruned rfl⟩

/-- The rate limiter keeps times of its own. -/
theorem Alike.acceptRate (alike : Alike t config s s') (now : Nat) :
    SameOutcome t config (s.acceptRate now config) (s'.acceptRate now config) := by
  have same : ∀ times, Alike t config { s with requestTimes := times } { s' with requestTimes := times } := by
    intro requests
    cases alike with
    | mk outbox dropped times pruned window => exact .mk outbox dropped times pruned window
  have requests : s'.requestTimes = s.requestTimes := by
    cases alike
    rfl
  rw [ClientSession.acceptRate, ClientSession.acceptRate, requests]
  split
  · exact ⟨rfl, same _⟩
  · split
    · exact ⟨rfl, same _⟩
    · exact ⟨rfl, same _⟩

theorem Alike.acceptRequest (alike : Alike t config s s') (later : t ≤ now) (sessionId : SessionId)
    (seq ack : UInt32) :
    SameOutcome t config (s.acceptRequest sessionId seq ack now config)
      (s'.acceptRequest sessionId seq ack now config) := by
  have accepted := alike.acceptSequence later sessionId seq ack
  simp only [ClientSession.acceptRequest]
  generalize s.acceptSequence sessionId seq ack now config.resumeTtl = r at accepted
  generalize s'.acceptSequence sessionId seq ack now config.resumeTtl = r' at accepted
  obtain ⟨result, after⟩ := r
  obtain ⟨result', after'⟩ := r'
  obtain ⟨rfl, still⟩ := accepted
  cases result' with
  | error error => exact ⟨rfl, still⟩
  | ok _ =>
    have rated := still.acceptRate now
    dsimp only at rated ⊢
    generalize after.acceptRate now config = q at rated
    generalize after'.acceptRate now config = q' at rated
    obtain ⟨allowed, final⟩ := q
    obtain ⟨allowed', final'⟩ := q'
    obtain ⟨rfl, rest⟩ := rated
    cases allowed' with
    | false => exact ⟨rfl, rest⟩
    | true =>
      have routes := congrArg ClientSession.routes rest.eq
      exact ⟨congrArg Except.ok routes, rest⟩

theorem Alike.disconnect (alike : Alike t config s s') (sessionId : SessionId) (now : Nat) :
    SameOutcome t config (s.disconnect sessionId now) (s'.disconnect sessionId now) := by
  have unbound : Alike t config { s with conn := none, disconnectedAt := some now }
      { s' with conn := none, disconnectedAt := some now } := by
    cases alike with
    | mk outbox dropped times pruned window => exact .mk outbox dropped times pruned window
  have checked : (s'.sessionId ≠ sessionId ∨ s'.active = false)
      ↔ (s.sessionId ≠ sessionId ∨ s.active = false) := by
    rw [alike.eq]
    rfl
  by_cases mismatch : s.sessionId ≠ sessionId ∨ s.active = false
  · rw [ClientSession.disconnect, ClientSession.disconnect, if_pos mismatch, if_pos (checked.mpr mismatch)]
    exact ⟨rfl, alike⟩
  · rw [ClientSession.disconnect, ClientSession.disconnect, if_neg mismatch, if_neg (mt checked.mp mismatch)]
    have routes := congrArg ClientSession.routes alike.eq
    exact ⟨congrArg some routes, unbound⟩

theorem Alike.authorizeReconnect (alike : Alike t config s s') (later : t ≤ now) (previous : SessionId)
    (clientSeq ack : UInt32) :
    SameOutcome t config (s.authorizeReconnect previous clientSeq ack now config)
      (s'.authorizeReconnect previous clientSeq ack now config) := by
  have pruned := alike.prune later
  have checked : s'.sessionId = s.sessionId ∧ s'.clientSeq = s.clientSeq
      ∧ s'.disconnectedAt = s.disconnectedAt
      ∧ s'.reconnectTimes.dropWhile (fun since => now - since ≥ config.reconnectWindow)
        = s.reconnectTimes.dropWhile (fun since => now - since ≥ config.reconnectWindow) := by
    cases alike with
    | mk outbox dropped times pruned window => exact ⟨rfl, rfl, rfl, window now later⟩
  simp only [ClientSession.authorizeReconnect, checked.1, checked.2.1, checked.2.2.1, pruned]
  split
  · exact ⟨rfl, alike⟩
  split
  · exact ⟨rfl, alike⟩
  split
  · exact ⟨rfl, alike⟩
  have gap : outboxGap { s.pruneOutbox now config.resumeTtl with reconnectTimes := s'.reconnectTimes } ack
      = outboxGap (s.pruneOutbox now config.resumeTtl) ack := rfl
  simp only [gap, checked.2.2.2]
  split
  · exact ⟨rfl, alike.pruned rfl⟩
  split
  · exact ⟨rfl, alike.pruned rfl⟩
  have window : (s.pruneOutbox now config.resumeTtl).reconnectTimes = s.reconnectTimes := rfl
  simp only [window]
  split
  · exact ⟨rfl, .refl _⟩
  · exact ⟨rfl, .refl _⟩

theorem Alike.completeReconnect (alike : Alike t config s s') (later : t ≤ now) (previous : SessionId)
    (conn : Connection) (clientSeq ack : UInt32) :
    SameOutcome t config (s.completeReconnect previous conn clientSeq ack now config)
      (s'.completeReconnect previous conn clientSeq ack now config) := by
  have pruned := alike.prune later
  have checked : s'.sessionId = s.sessionId ∧ s'.clientSeq = s.clientSeq := by
    cases alike
    exact ⟨rfl, rfl⟩
  simp only [ClientSession.completeReconnect, checked.1, checked.2, pruned]
  split
  · exact ⟨rfl, alike⟩
  split
  · exact ⟨rfl, alike⟩
  have gap : outboxGap { s.pruneOutbox now config.resumeTtl with reconnectTimes := s'.reconnectTimes } ack
      = outboxGap (s.pruneOutbox now config.resumeTtl) ack := rfl
  simp only [gap]
  split
  · exact ⟨rfl, alike.pruned rfl⟩
  · exact ⟨rfl, alike.pruned rfl⟩

theorem Alike.unbound (alike : Alike t config s s') :
    Alike t config { s with conn := none } { s' with conn := none } := by
  cases alike with
  | mk outbox dropped times pruned window => exact .mk outbox dropped times pruned window

theorem Alike.kick (alike : Alike t config s s') (later : t ≤ now) (wire : Wire M B) (sessionId : SessionId)
    (message : M) :
    SameOutcome t config (s.kick wire sessionId message now config)
      (s'.kick wire sessionId message now config) := by
  have sessions := congrArg ClientSession.sessionId alike.eq
  have conns := congrArg ClientSession.conn alike.eq
  have notice := alike.unbound.encode later wire .kickNtf message
  have checked : s'.sessionId ≠ sessionId ↔ s.sessionId ≠ sessionId := by rw [sessions]
  by_cases mismatch : s.sessionId ≠ sessionId
  · rw [ClientSession.kick, ClientSession.kick, if_pos mismatch, if_pos (checked.mpr mismatch)]
    exact ⟨rfl, alike⟩
  · rw [ClientSession.kick, ClientSession.kick, if_neg mismatch, if_neg (mt checked.mp mismatch)]
    cases bound : s.conn with
    | none =>
      have bound' : s'.conn = none := conns.trans bound
      simp only [bound', Option.isSome_none, Bool.false_eq_true, if_false]
      exact ⟨rfl, alike.unbound⟩
    | some conn =>
      have bound' : s'.conn = some conn := conns.trans bound
      simp only [bound', Option.isSome_some, if_true]
      exact ⟨rfl, notice.2⟩

end ClientSession

open ClientSession

variable {t : Nat} {config : SessionConfig} {s s' : ClientSession B}

theorem SameOutcome.map {A A' : Type} {r r' : A × ClientSession B} (same : SameOutcome t config r r')
    (f : A → A') : SameOutcome t config (f r.1, r.2) (f r'.1, r'.2) :=
  ⟨congrArg f same.1, same.2⟩

/-- No call tells two such sessions apart. -/
theorem Call.exec_alike (alike : Alike t config s s') (wire : Wire M B) {call : Call M}
    (later : t ≤ call.time) : SameOutcome t config (call.exec wire config s) (call.exec wire config s') := by
  cases call with
  | send sessionId msgid message now =>
    exact SameOutcome.map (alike.send later wire sessionId msgid message) Answer.sent
  | acceptRequest sessionId seq ack now =>
    exact SameOutcome.map (alike.acceptRequest later sessionId seq ack) Answer.request
  | acceptSequence sessionId seq ack now =>
    exact SameOutcome.map (alike.acceptSequence later sessionId seq ack) Answer.sequence
  | currentSession now =>
    refine ⟨?_, alike⟩
    rw [alike.eq]
    rfl
  | disconnect sessionId now =>
    exact SameOutcome.map (alike.disconnect sessionId now) Answer.disconnected
  | kick sessionId message now =>
    have later : t ≤ now := later
    obtain ⟨result, after⟩ := alike.kick later wire sessionId message
    obtain ⟨notice, _⟩ := alike.unbound.encode later wire .kickNtf message
    refine ⟨?_, after⟩
    simp only [Call.exec, result, notice]
  | authorizeReconnect previous clientSeq ack now =>
    exact SameOutcome.map (alike.authorizeReconnect later previous clientSeq ack) Answer.authorized
  | completeReconnect previous conn clientSeq ack now =>
    exact SameOutcome.map (alike.completeReconnect later previous conn clientSeq ack) Answer.completed

theorem Call.answers_alike (alike : Alike t config s s') (wire : Wire M B) {calls : List (Call M)}
    (later : ∀ call ∈ calls, t ≤ call.time) :
    answers wire config s' calls = answers wire config s calls := by
  induction calls generalizing s s' with
  | nil => rfl
  | cons call rest ih =>
    obtain ⟨answer, after⟩ := exec_alike alike wire (later call List.mem_cons_self)
    have others := ih after fun c member => later c (List.mem_cons_of_mem call member)
    simp only [answers, answer, others]

/-! ## What a refusal leaves -/

theorem alike_pruneOutbox (s : ClientSession B) (t : Nat) (config : SessionConfig) :
    Alike t config s (s.pruneOutbox t config.resumeTtl) := by
  refine .mk _ _ s.reconnectTimes ?_ (fun _ _ => rfl)
  intro now later
  exact pruneLoop_pruneLoop later s.outbox s.droppedThrough

theorem alike_forgotten (s : ClientSession B) (t : Nat) (config : SessionConfig) :
    Alike t config s { s.pruneOutbox t config.resumeTtl with
      reconnectTimes := s.reconnectTimes.dropWhile fun since => t - since ≥ config.reconnectWindow } := by
  refine .mk _ _ _ ?_ ?_
  · intro now later
    exact pruneLoop_pruneLoop later s.outbox s.droppedThrough
  · intro now later
    apply dropWhile_dropWhile
    intro since old
    simp only [decide_eq_true_eq] at old ⊢
    omega

theorem Call.refused_alike (wire : Wire M B) {call : Call M}
    (refused : (call.exec wire config s).1.refused = true) :
    Alike call.time config s (call.exec wire config s).2 := by
  cases call with
  | acceptSequence sessionId seq ack now =>
    rcases s.acceptSequence_cases sessionId seq ack now config.resumeTtl with
      ⟨error, same⟩ | ⟨_, _, _, accepted⟩
    · simp only [Call.exec, same]
      exact .refl s
    · simp [Call.exec, accepted, Answer.refused] at refused
  | authorizeReconnect previous clientSeq ack now =>
    simp only [Call.exec, ClientSession.authorizeReconnect] at refused ⊢
    split
    · exact .refl s
    split
    · exact .refl s
    split
    · exact .refl s
    split
    · exact alike_pruneOutbox s now config
    split
    · exact alike_pruneOutbox s now config
    split
    · exact alike_forgotten s now config
    · simp_all [Answer.refused]
  | completeReconnect previous conn clientSeq ack now =>
    rcases s.completeReconnect_cases previous conn clientSeq ack now config with
      ⟨_, same⟩ | ⟨_, _, pruned⟩ | ⟨_, _, completed⟩
    · simp only [Call.exec, same]
      exact .refl s
    · simp only [Call.exec, pruned]
      exact alike_pruneOutbox s now config
    · simp [Call.exec, completed, Answer.refused] at refused
  | send sessionId msgid message now => cases refused
  | acceptRequest sessionId seq ack now => cases refused
  | currentSession now => cases refused
  | disconnect sessionId now => cases refused
  | kick sessionId message now => cases refused

/-! ## Expired sessions -/

namespace ClientSession

/-- The connection and the time of the disconnect are as they were. -/
def SameBinding (s t : ClientSession B) : Prop := t.conn = s.conn ∧ t.disconnectedAt = s.disconnectedAt

theorem encode_binding (wire : Wire M B) (s : ClientSession B) (msgid : MsgId) (message : M) (now : Nat)
    (config : SessionConfig) : SameBinding s (s.encode wire msgid message now config).2 := by
  simp only [encode]
  split
  · exact ⟨rfl, rfl⟩
  · split
    · simp only [makeRoom]
      split
      · simp only [evictOldest]
        split <;> exact ⟨rfl, rfl⟩
      · exact ⟨rfl, rfl⟩
    · exact ⟨rfl, rfl⟩

theorem acceptSequence_binding (s : ClientSession B) (sessionId : SessionId) (seq ack : UInt32)
    (now ttl : Nat) : SameBinding s (s.acceptSequence sessionId seq ack now ttl).2 := by
  rcases s.acceptSequence_cases sessionId seq ack now ttl with ⟨_, same⟩ | ⟨_, _, _, accepted⟩
  · rw [same]
    exact ⟨rfl, rfl⟩
  · rw [accepted]
    exact ⟨rfl, rfl⟩

/-- An inactive session knows when it was disconnected. -/
def Marked (s : ClientSession B) : Prop := s.conn = none → s.disconnectedAt.isSome = true

end ClientSession

/-- A reconnect was completed. -/
def Answer.completes : Answer B → Bool
  | .completed (.ok _) => true
  | _ => false

/-- What a call can do to the connection of a session. -/
inductive Call.Binds (s : ClientSession B) : Call M → Answer B → ClientSession B → Prop
  | same {call : Call M} {answer : Answer B} {after : ClientSession B} :
      SameBinding s after → Binds s call answer after
  | disconnected {call : Call M} {answer : Answer B} {after : ClientSession B} (now : Nat) :
      s.conn ≠ none → after.disconnectedAt = some now → Binds s call answer after
  | completed {call : Call M} {answer : Answer B} {after : ClientSession B} :
      answer.completes = true → after.conn ≠ none → Binds s call answer after
  | kicked {call : Call M} {after : ClientSession B} (wasActive : Bool) (notice : Option B) :
      after.conn = none → after.disconnectedAt = s.disconnectedAt →
      Binds s call (.kicked (some wasActive) notice) after

theorem Call.exec_binds (wire : Wire M B) (config : SessionConfig) (s : ClientSession B) (call : Call M) :
    Binds s call (call.exec wire config s).1 (call.exec wire config s).2 := by
  cases call with
  | send sessionId msgid message now =>
    apply Binds.same
    simp only [exec, ClientSession.send]
    split
    · exact ⟨rfl, rfl⟩
    · split
      · exact ⟨rfl, rfl⟩
      · have kept := encode_binding wire s msgid message now config
        split
        next encoded => rwa [encoded] at kept
        next encoded => rwa [encoded] at kept
  | acceptRequest sessionId seq ack now =>
    obtain ⟨times, rated⟩ := s.acceptRequest_snd sessionId seq ack now config
    obtain ⟨conn, disconnectedAt⟩ := s.acceptSequence_binding sessionId seq ack now config.resumeTtl
    apply Binds.same
    simp only [exec, rated]
    exact ⟨conn, disconnectedAt⟩
  | acceptSequence sessionId seq ack now =>
    exact .same (s.acceptSequence_binding sessionId seq ack now config.resumeTtl)
  | currentSession now => exact .same ⟨rfl, rfl⟩
  | disconnect sessionId now =>
    simp only [exec, ClientSession.disconnect]
    split
    · exact .same ⟨rfl, rfl⟩
    next bound =>
      refine .disconnected now ?_ rfl
      intro none
      exact bound (.inr (by rw [active, none]; rfl))
  | kick sessionId message now =>
    simp only [exec, ClientSession.kick]
    split
    · exact .same ⟨rfl, rfl⟩
    · split
      · have kept := encode_binding wire { s with conn := none } .kickNtf message now config
        exact .kicked true _ kept.1 kept.2
      · exact .kicked false _ rfl rfl
  | authorizeReconnect previous clientSeq ack now =>
    apply Binds.same
    rcases s.authorizeReconnect_cases previous clientSeq ack now config with
      ⟨_, same⟩ | ⟨_, _, _, pruned⟩
    · simp only [exec, same]
      exact ⟨rfl, rfl⟩
    · simp only [exec, pruned]
      exact ⟨rfl, rfl⟩
  | completeReconnect previous conn clientSeq ack now =>
    rcases s.completeReconnect_cases previous conn clientSeq ack now config with
      ⟨_, same⟩ | ⟨_, _, pruned⟩ | ⟨_, _, completed⟩
    · simp only [exec, same]
      exact .same ⟨rfl, rfl⟩
    · simp only [exec, pruned]
      exact .same ⟨rfl, rfl⟩
    · simp only [exec, completed]
      exact .completed rfl (by simp [resumed])

/-- Disconnected for longer than the resume state is kept, at time `t`. -/
def ClientSession.Lapsed (t : Nat) (config : SessionConfig) (s : ClientSession B) : Prop :=
  s.conn = none ∧ ∃ since, s.disconnectedAt = some since ∧ t - since > config.resumeTtl

def Answer.authorizes : Answer B → Bool
  | .authorized (.ok _) => true
  | _ => false

theorem Call.lapsed_exec (lapsed : s.Lapsed t config) (wire : Wire M B) {call : Call M}
    (open_ : (call.exec wire config s).1.completes = false) : (call.exec wire config s).2.Lapsed t config := by
  obtain ⟨unbound, since, disconnected, old⟩ := lapsed
  have binds := call.exec_binds wire config s
  generalize call.exec wire config s = outcome at binds open_
  obtain ⟨answer, after⟩ := outcome
  cases binds with
  | same same => exact ⟨same.1.trans unbound, since, same.2.trans disconnected, old⟩
  | disconnected now bound _ => exact absurd unbound bound
  | completed completes _ =>
    rw [open_] at completes
    cases completes
  | kicked wasActive notice conn same => exact ⟨conn, since, same.trans disconnected, old⟩

theorem Call.lapsed_refused (lapsed : s.Lapsed t config) (wire : Wire M B) {call : Call M}
    (later : t ≤ call.time) : (call.exec wire config s).1.authorizes = false := by
  obtain ⟨_, since, disconnected, old⟩ := lapsed
  cases call with
  | authorizeReconnect previous clientSeq ack now =>
    have later : t ≤ now := later
    have expired : (s.disconnectedAt.any fun since => now - since > config.resumeTtl) = true := by
      rw [disconnected]
      simp only [Option.any_some, decide_eq_true_eq]
      omega
    simp only [exec, ClientSession.authorizeReconnect, expired, if_true]
    split
    · rfl
    · split <;> rfl
  | send sessionId msgid message now => rfl
  | acceptRequest sessionId seq ack now => rfl
  | acceptSequence sessionId seq ack now => rfl
  | currentSession now => rfl
  | disconnect sessionId now => rfl
  | kick sessionId message now => rfl
  | completeReconnect previous conn clientSeq ack now => rfl

/-! ## The table, one operation after another -/

inductive TableOp (M : Type) where
  | installLogin (gid : Gid) (conn : Connection) (routes : Routes) (clientSeq : UInt32)
  | call (gid : Gid) (call : Call M)
  | invalidate (gid : Gid) (sessionId : SessionId)
  | pruneExpired (now : Nat)
  | drain

/-- The operation is made at time `t` or later, if it has a time. -/
def TableOp.NotBefore (t : Nat) : TableOp M → Prop
  | .call _ made => t ≤ made.time
  | .pruneExpired now => t ≤ now
  | _ => True

namespace ClientSessions

/-- A call by a player, with both sections of a `kick`; there is no answer where
the table has no session. -/
def call (wire : Wire M B) (config : SessionConfig) (s : ClientSessions B) (gid : Gid) (call : Call M) :
    Option (Answer B) × ClientSessions B :=
  match s.get gid with
  | none => (none, s)
  | some arc =>
    match s.arcs[arc]? with
    | none => (none, s)
    | some session =>
      let (answer, session) := call.exec wire config session
      match answer with
      | .kicked (some _) _ => (some answer, (s.store arc session).removeKicked gid arc)
      | answer => (some answer, s.store arc session)

def run (wire : Wire M B) (config : SessionConfig) (s : ClientSessions B) : TableOp M → ClientSessions B
  | .installLogin gid conn routes clientSeq => (s.installLogin gid conn routes clientSeq).2
  | .call gid call => (s.call wire config gid call).2
  | .invalidate gid sessionId => (s.invalidate gid sessionId).2
  | .pruneExpired now => s.pruneExpired now config
  | .drain => s.drain

/-- The table after operations that are made one after another. -/
def runs (wire : Wire M B) (config : SessionConfig) (s : ClientSessions B) (ops : List (TableOp M)) :
    ClientSessions B :=
  ops.foldl (run wire config) s

/-- The operation completes a reconnect of the player, whose session had lapsed at time `t`. -/
def Revives (wire : Wire M B) (config : SessionConfig) (t : Nat) (gid : Gid) (s : ClientSessions B) :
    TableOp M → Prop
  | .call other call => other = gid
    ∧ (∃ arc session, s.get gid = some arc ∧ s.arcs[arc]? = some session ∧ session.Lapsed t config)
    ∧ ∃ answer, (s.call wire config other call).1 = some answer ∧ answer.completes = true
  | _ => False

/-- None of the operations does. -/
def Unrevived (wire : Wire M B) (config : SessionConfig) (t : Nat) (gid : Gid) :
    ClientSessions B → List (TableOp M) → Prop
  | _, [] => True
  | s, op :: rest => ¬ Revives wire config t gid s op ∧ Unrevived wire config t gid (s.run wire config op) rest

def table (wire : Wire M B) (config : ValidSessionConfig) : System (ClientSessions B) (TableOp M) :=
  .ofFun (· = .new) fun s op => some (s.run wire config.toSessionConfig op)

/-- Every session in the map is active or knows when it was disconnected. -/
structure Attended (s : ClientSessions B) : Prop where
  wellFormed : s.WellFormed
  marked : ∀ gid arc session, s.get gid = some arc → s.arcs[arc]? = some session → session.Marked

variable {s : ClientSessions B}

theorem Attended.store (attended : Attended s) (arc : Nat) {session : ClientSession B}
    (marked : session.Marked) : Attended (s.store arc session) where
  wellFormed := wellFormed_store attended.wellFormed arc session
  marked := by
    intro gid other found mapped behind
    by_cases here : arc = other
    · subst here
      have inside := attended.wellFormed.bounded gid arc mapped
      have set : (s.arcs.set arc session)[arc]? = some session := List.getElem?_set_self inside
      obtain rfl := Option.some.inj (set.symm.trans behind)
      exact marked
    · have kept : (s.arcs.set arc session)[other]? = s.arcs[other]? := List.getElem?_set_ne here
      exact attended.marked gid other found mapped (kept.symm.trans behind)

theorem Attended.erase (attended : Attended s) (gid : Gid) :
    Attended { s with players := s.players.erase gid } where
  wellFormed := wellFormed_erase attended.wellFormed gid
  marked := by
    intro other arc session mapped behind
    exact attended.marked other arc session (lookup_of_erase mapped).2 behind

/-- The session that is kicked is out of the map when `kick` returns. -/
theorem Attended.kicked (attended : Attended s) {gid : Gid} {arc : Nat} (mapped : s.get gid = some arc)
    (session : ClientSession B) : Attended ((s.store arc session).removeKicked gid arc) := by
  rcases (s.store arc session).removeKicked_cases gid arc with ⟨gone, _⟩ | ⟨_, removed⟩
  · exact absurd mapped gone
  · rw [removed]
    refine ⟨wellFormed_erase (wellFormed_store attended.wellFormed arc session) gid, ?_⟩
    intro other held found there behind
    obtain ⟨differ, there⟩ := lookup_of_erase there
    have apart : arc ≠ held := by
      rintro rfl
      exact differ (attended.wellFormed.distinct other gid arc there mapped)
    have kept : (s.arcs.set arc session)[held]? = s.arcs[held]? := List.getElem?_set_ne apart
    exact attended.marked other held found there (kept.symm.trans behind)

theorem Attended.call (attended : Attended s) (wire : Wire M B) (config : SessionConfig) (gid : Gid)
    (call : Call M) : Attended (s.call wire config gid call).2 := by
  rw [ClientSessions.call]
  split
  · exact attended
  next arc mapped =>
    split
    · exact attended
    next session behind =>
      have marked := attended.marked gid arc session mapped behind
      have binds := call.exec_binds wire config session
      generalize call.exec wire config session = outcome at binds
      obtain ⟨answer, after⟩ := outcome
      dsimp only at binds ⊢
      split
      · exact attended.kicked mapped after
      next notKicked =>
        apply attended.store
        intro unbound
        cases binds with
        | same same =>
          rw [same.2]
          exact marked (same.1.symm.trans unbound)
        | disconnected now _ disconnected =>
          rw [disconnected]
          rfl
        | completed _ bound => exact absurd unbound bound
        | kicked wasActive notice _ _ => exact absurd rfl (notKicked wasActive notice)

theorem Attended.installLogin (attended : Attended s) (gid : Gid) (conn : Connection) (routes : Routes)
    (clientSeq : UInt32) : Attended (s.installLogin gid conn routes clientSeq).2 where
  wellFormed := wellFormed_installLogin attended.wellFormed gid conn routes clientSeq
  marked := by
    intro other arc session mapped behind
    have inserted : (s.players.insert gid s.arcs.length).lookup other = some arc := mapped
    rcases Pool.get_append_cases behind with ⟨_, rfl⟩ | ⟨inside, before⟩
    · intro unbound
      cases unbound
    · have differ : other ≠ gid := by
        rintro rfl
        rw [AList.lookup_insert] at inserted
        obtain rfl := Option.some.inj inserted
        exact Nat.lt_irrefl _ inside
      rw [AList.lookup_insert_ne differ] at inserted
      exact attended.marked other arc session inserted before

theorem attended_run (wire : Wire M B) (config : SessionConfig) (attended : Attended s) (op : TableOp M) :
    Attended (s.run wire config op) := by
  cases op with
  | installLogin gid conn routes clientSeq => exact attended.installLogin gid conn routes clientSeq
  | call gid call => exact attended.call wire config gid call
  | invalidate gid sessionId =>
    rcases s.invalidate_cases gid sessionId with same | ⟨_, _, _, _, _, removed⟩
    · rw [run, same]
      exact attended
    · rw [run, removed]
      exact attended.erase gid
  | pruneExpired now =>
    refine ⟨wellFormed_pruneExpired attended.wellFormed now config, ?_⟩
    intro gid arc session mapped behind
    exact attended.marked gid arc session (Table.lookup_retain.mp mapped).1 behind
  | drain =>
    refine ⟨⟨?_, ?_⟩, ?_⟩
    · intro gid other arc mapped
      cases mapped
    · intro gid arc mapped
      cases mapped
    · intro gid arc session mapped
      cases mapped

theorem attended_of_reach {wire : Wire M B} {config : ValidSessionConfig}
    (reached : (table wire config).Reach System.Any s) : Attended s := by
  apply reached.inv
  · rintro _ rfl
    refine ⟨⟨?_, ?_⟩, ?_⟩
    · intro gid other arc mapped
      cases mapped
    · intro gid arc mapped
      cases mapped
    · intro gid arc session mapped
      cases mapped
  · intro s op t attended _ taken
    obtain rfl := Option.some.inj taken
    exact attended_run wire config.toSessionConfig attended op

/-- What `prune_expired` takes out of the map has lapsed. -/
theorem Attended.lapsed (attended : Attended s) {now : Nat} {config : SessionConfig} {gid : Gid} {arc : Nat}
    {session : ClientSession B} (mapped : s.get gid = some arc) (behind : s.arcs[arc]? = some session)
    (removed : (s.pruneExpired now config).get gid ≠ some arc) : session.Lapsed now config := by
  have dropped :
      ¬ (session.active || session.disconnectedAt.any fun at_ => now - at_ ≤ config.resumeTtl) = true := by
    intro kept
    apply removed
    refine Table.lookup_retain.mpr ⟨mapped, ?_⟩
    rw [behind]
    exact kept
  rw [Bool.or_eq_true, not_or] at dropped
  have unbound : session.conn = none := by simpa [ClientSession.active] using dropped.1
  have marked := attended.marked gid arc session mapped behind unbound
  obtain ⟨since, disconnected⟩ := Option.isSome_iff_exists.mp marked
  refine ⟨unbound, since, disconnected, ?_⟩
  have late := dropped.2
  rw [disconnected] at late
  simp only [Option.any_some, decide_eq_true_eq] at late
  omega

/-! ## Two tables -/

/-- The entry of the player and the session behind it are the same. -/
def SameEntry (gid : Gid) (s t : ClientSessions B) : Prop :=
  t.get gid = s.get gid ∧ ∀ arc, s.get gid = some arc → t.arcs[arc]? = s.arcs[arc]?

/-- The player has the same session in both tables, or a session that has lapsed in the
    first one and none in the second. -/
structure Spared (t : Nat) (config : SessionConfig) (gid : Gid) (s s' : ClientSessions B) : Prop where
  attended : Attended s
  attended' : Attended s'
  length : s'.arcs.length = s.arcs.length
  player : SameEntry gid s s' ∨ (s'.get gid = none ∧ ∃ arc session, s.get gid = some arc
    ∧ s.arcs[arc]? = some session ∧ session.Lapsed t config)

variable {s' : ClientSessions B} {config : SessionConfig} {gid : Gid} {t : Nat} {wire : Wire M B}

theorem sameEntry_of_none {u u' : ClientSessions B} (none : u.get gid = none) (none' : u'.get gid = Option.none) :
    SameEntry gid u u' := by
  refine ⟨none'.trans none.symm, ?_⟩
  intro arc found
  rw [none] at found
  cases found

theorem get_removeKicked {u : ClientSessions B} {arc : Nat} (mapped : u.get gid = some arc) :
    (u.removeKicked gid arc).get gid = none := by
  rw [removeKicked, if_pos mapped]
  exact AList.lookup_erase _ _

theorem Attended.spared (attended : Attended s) (now : Nat) (config : SessionConfig) (gid : Gid)
    (wire : Wire M B) : Spared now config gid s (s.pruneExpired now config) where
  attended := attended
  attended' := attended_run wire config attended (.pruneExpired now)
  length := rfl
  player := by
    cases mapped : s.get gid with
    | none =>
      refine .inl (sameEntry_of_none mapped ?_)
      rw [Option.eq_none_iff_forall_not_mem]
      intro arc found
      have before : s.get gid = some arc := (Table.lookup_retain.mp found).1
      rw [mapped] at before
      cases before
    | some arc =>
      by_cases kept : (s.pruneExpired now config).get gid = some arc
      · exact .inl ⟨kept.trans mapped.symm, fun _ _ => rfl⟩
      · apply Or.inr
        obtain ⟨session, behind⟩ : ∃ session, s.arcs[arc]? = some session :=
          ⟨_, List.getElem?_eq_getElem (attended.wellFormed.bounded gid arc mapped)⟩
        refine ⟨?_, arc, session, rfl, behind, attended.lapsed mapped behind kept⟩
        rw [Option.eq_none_iff_forall_not_mem]
        intro other found
        have before : s.get gid = some other := (Table.lookup_retain.mp found).1
        rw [mapped] at before
        obtain rfl := Option.some.inj before
        exact kept found

theorem length_run (wire : Wire M B) (config : SessionConfig) (s s' : ClientSessions B)
    (length : s'.arcs.length = s.arcs.length) (op : TableOp M) :
    (s'.run wire config op).arcs.length = (s.run wire config op).arcs.length := by
  have called : ∀ (u : ClientSessions B) (gid : Gid) (call : Call M),
      (u.call wire config gid call).2.arcs.length = u.arcs.length := by
    intro u gid call
    rw [ClientSessions.call]
    split
    · rfl
    next arc mapped =>
      split
      · rfl
      next session behind =>
        generalize call.exec wire config session = outcome
        obtain ⟨answer, after⟩ := outcome
        dsimp only
        split
        · rcases (u.store arc after).removeKicked_cases gid arc with ⟨_, same⟩ | ⟨_, removed⟩
          · rw [same, store, List.length_set]
          · rw [removed, store, List.length_set]
        · rw [store, List.length_set]
  have invalidated : ∀ (u : ClientSessions B) (gid : Gid) (sessionId : SessionId),
      (u.invalidate gid sessionId).2.arcs.length = u.arcs.length := by
    intro u gid sessionId
    rcases u.invalidate_cases gid sessionId with same | ⟨_, _, _, _, _, removed⟩
    · rw [same]
    · rw [removed]
  cases op with
  | installLogin gid conn routes clientSeq => simp [run, ClientSessions.installLogin, length]
  | call gid call => rw [run, run, called, called, length]
  | invalidate gid sessionId => rw [run, run, invalidated, invalidated, length]
  | pruneExpired now => exact length
  | drain => simp [run, drain, length]

theorem sameEntry_erase {other : Gid} (differ : gid ≠ other) (u : ClientSessions B) :
    SameEntry gid u { u with players := u.players.erase other } :=
  ⟨AList.lookup_erase_ne differ, fun _ _ => rfl⟩

/-- Another player's operation leaves the entry alone. -/
theorem sameEntry_call (attended : Attended s) {other : Gid} (differ : gid ≠ other) (wire : Wire M B)
    (config : SessionConfig) (call : Call M) : SameEntry gid s (s.call wire config other call).2 := by
  rw [ClientSessions.call]
  split
  · exact ⟨rfl, fun _ _ => rfl⟩
  next arc mapped =>
    split
    · exact ⟨rfl, fun _ _ => rfl⟩
    next session behind =>
      generalize call.exec wire config session = outcome
      obtain ⟨answer, after⟩ := outcome
      have stored : SameEntry gid s (s.store arc after) := by
        refine ⟨rfl, ?_⟩
        intro held found
        have apart : arc ≠ held := by
          rintro rfl
          exact differ (attended.wellFormed.distinct gid other arc found mapped)
        exact List.getElem?_set_ne apart
      dsimp only
      split
      · rcases (s.store arc after).removeKicked_cases other arc with ⟨_, same⟩ | ⟨_, removed⟩
        · rw [same]
          exact stored
        · rw [removed]
          have erased := sameEntry_erase differ (s.store arc after)
          exact ⟨erased.1.trans stored.1, stored.2⟩
      · exact stored

theorem Spared.of_sameEntry (spared : Spared t config gid s s') {u u' : ClientSessions B}
    (first : SameEntry gid s u) (second : SameEntry gid s' u') (attended : Attended u) (attended' : Attended u')
    (length : u'.arcs.length = u.arcs.length) : Spared t config gid u u' where
  attended := attended
  attended' := attended'
  length := length
  player := by
    rcases spared.player with ⟨entry, behind⟩ | ⟨gone, arc, session, mapped, behind, lapsed⟩
    · apply Or.inl
      refine ⟨second.1.trans (entry.trans first.1.symm), ?_⟩
      intro arc found
      rw [first.1] at found
      rw [second.2 arc (entry.trans found), behind arc found, first.2 arc found]
    · apply Or.inr
      exact ⟨second.1.trans gone, arc, session, first.1.trans mapped, (first.2 arc mapped).trans behind, lapsed⟩

/-- A call of the player itself. -/
theorem Spared.call (spared : Spared t config gid s s') (call : Call M)
    (open_ : ¬ Revives wire config t gid s (.call gid call)) :
    SameEntry gid (s.call wire config gid call).2 (s'.call wire config gid call).2
    ∨ ((s'.call wire config gid call).2.get gid = none ∧ ∃ arc session,
      (s.call wire config gid call).2.get gid = some arc
      ∧ (s.call wire config gid call).2.arcs[arc]? = some session ∧ session.Lapsed t config) := by
  rcases spared.player with ⟨entry, behind⟩ | ⟨gone, arc, session, mapped, behind, lapsed⟩
  · apply Or.inl
    cases mapped : s.get gid with
    | none =>
      rw [mapped] at entry
      simp only [ClientSessions.call, mapped, entry]
      exact sameEntry_of_none mapped entry
    | some arc =>
      rw [mapped] at entry
      have same := behind arc mapped
      obtain ⟨session, here⟩ : ∃ session, s.arcs[arc]? = some session :=
        ⟨_, List.getElem?_eq_getElem (spared.attended.wellFormed.bounded gid arc mapped)⟩
      rw [here] at same
      simp only [ClientSessions.call, mapped, entry, here, same]
      generalize call.exec wire config session = outcome
      obtain ⟨answer, after⟩ := outcome
      have stored : SameEntry gid (s.store arc after) (s'.store arc after) := by
        refine ⟨entry.trans mapped.symm, ?_⟩
        intro held found
        obtain rfl := Option.some.inj (mapped.symm.trans found)
        exact (Pool.get_set_self after same).trans (Pool.get_set_self after here).symm
      dsimp only
      split
      · exact sameEntry_of_none (get_removeKicked (u := s.store arc after) mapped)
          (get_removeKicked (u := s'.store arc after) entry)
      · exact stored
  · -- the session has lapsed, and stays so or is kicked
    have answered : (s.call wire config gid call).1 = some (call.exec wire config session).1 := by
      simp only [ClientSessions.call, mapped, behind]
      split <;> simp_all
    have remains : (call.exec wire config session).2.Lapsed t config := by
      apply Call.lapsed_exec lapsed wire
      rw [← Bool.not_eq_true]
      intro completes
      exact open_ ⟨rfl, ⟨arc, session, mapped, behind, lapsed⟩, _, answered, completes⟩
    have untouched : (s'.call wire config gid call).2 = s' := by simp only [ClientSessions.call, gone]
    rw [untouched]
    simp only [ClientSessions.call, mapped, behind]
    generalize call.exec wire config session = outcome at remains
    obtain ⟨answer, after⟩ := outcome
    dsimp only
    split
    · exact .inl (sameEntry_of_none (get_removeKicked (u := s.store arc after) mapped) gone)
    · exact .inr ⟨gone, arc, after, mapped, Pool.get_set_self after behind, remains⟩

theorem Spared.run (spared : Spared t config gid s s') (op : TableOp M)
    (open_ : ¬ Revives wire config t gid s op) :
    Spared t config gid (s.run wire config op) (s'.run wire config op) := by
  have attended := attended_run wire config spared.attended op
  have attended' := attended_run wire config spared.attended' op
  have length := length_run wire config s s' spared.length op
  cases op with
  | installLogin other conn routes clientSeq =>
    by_cases same : gid = other
    · subst same
      refine ⟨attended, attended', length, .inl ⟨?_, ?_⟩⟩
      · show (s'.players.insert gid s'.arcs.length).lookup gid = (s.players.insert gid s.arcs.length).lookup gid
        rw [AList.lookup_insert, AList.lookup_insert, spared.length]
      · intro arc found
        change (s.players.insert gid s.arcs.length).lookup gid = some arc at found
        rw [AList.lookup_insert] at found
        obtain rfl := Option.some.inj found
        simp [ClientSessions.run, ClientSessions.installLogin, ← spared.length]
    · have installed : ∀ u : ClientSessions B, Attended u →
          SameEntry gid u (u.installLogin other conn routes clientSeq).2 := by
        intro u attended
        refine ⟨AList.lookup_insert_ne same, ?_⟩
        intro arc found
        exact List.getElem?_append_left (attended.wellFormed.bounded gid arc found)
      exact spared.of_sameEntry (installed s spared.attended) (installed s' spared.attended') attended attended'
        length
  | call other call =>
    by_cases same : gid = other
    · subst same
      exact ⟨attended, attended', length, spared.call call open_⟩
    · exact spared.of_sameEntry (sameEntry_call spared.attended same wire config call)
        (sameEntry_call spared.attended' same wire config call) attended attended' length
  | invalidate other sessionId =>
    by_cases same : gid = other
    · subst same
      refine ⟨attended, attended', length, ?_⟩
      rcases spared.player with ⟨entry, behind⟩ | ⟨gone, arc, session, mapped, here, lapsed⟩
      · apply Or.inl
        cases mapped : s.get gid with
        | none =>
          rw [mapped] at entry
          simp only [ClientSessions.run, ClientSessions.invalidate, mapped, entry]
          exact sameEntry_of_none mapped entry
        | some arc =>
          rw [mapped] at entry
          simp only [ClientSessions.run, ClientSessions.invalidate, mapped, entry, behind arc mapped]
          split
          · exact sameEntry_of_none (AList.lookup_erase _ _) (AList.lookup_erase _ _)
          · exact ⟨entry.trans mapped.symm, fun held found => behind held found⟩
      · have untouched : (s'.run wire config (.invalidate gid sessionId : TableOp M)) = s' := by
          simp only [ClientSessions.run, ClientSessions.invalidate, gone]
        rw [untouched]
        rcases s.invalidate_cases gid sessionId with unchanged | ⟨_, _, _, _, _, removed⟩
        · rw [ClientSessions.run, unchanged]
          exact .inr ⟨gone, arc, session, mapped, here, lapsed⟩
        · rw [ClientSessions.run, removed]
          exact .inl (sameEntry_of_none (AList.lookup_erase _ _) gone)
    · have invalidated : ∀ u : ClientSessions B, SameEntry gid u (u.invalidate other sessionId).2 := by
        intro u
        rcases u.invalidate_cases other sessionId with unchanged | ⟨_, _, _, _, _, removed⟩
        · rw [unchanged]
          exact ⟨rfl, fun _ _ => rfl⟩
        · rw [removed]
          exact sameEntry_erase same u
      exact spared.of_sameEntry (invalidated s) (invalidated s') attended attended' length
  | pruneExpired now =>
    refine ⟨attended, attended', length, ?_⟩
    rcases spared.player with ⟨entry, behind⟩ | ⟨gone, arc, session, mapped, here, lapsed⟩
    · apply Or.inl
      refine ⟨?_, fun arc found => behind arc (Table.lookup_retain.mp found).1⟩
      -- the decision is about the same session
      apply Option.ext
      intro arc
      show (s'.pruneExpired now config).get gid = some arc ↔ (s.pruneExpired now config).get gid = some arc
      constructor
      · intro found
        obtain ⟨mapped, keep⟩ := Table.lookup_retain.mp found
        have first : s.get gid = some arc := entry.symm.trans mapped
        rw [behind arc first] at keep
        exact Table.lookup_retain.mpr ⟨first, keep⟩
      · intro found
        obtain ⟨mapped, keep⟩ := Table.lookup_retain.mp found
        rw [← behind arc mapped] at keep
        exact Table.lookup_retain.mpr ⟨entry.trans mapped, keep⟩
    · have gone' : (s'.pruneExpired now config).get gid = none := by
        rw [Option.eq_none_iff_forall_not_mem]
        intro held found
        have before : s'.get gid = some held := (Table.lookup_retain.mp found).1
        rw [gone] at before
        cases before
      cases kept : (s.pruneExpired now config).get gid with
      | none => exact .inl (sameEntry_of_none kept gone')
      | some held =>
        have before : s.get gid = some held := (Table.lookup_retain.mp kept).1
        obtain rfl := Option.some.inj (mapped.symm.trans before)
        exact .inr ⟨gone', arc, session, kept, here, lapsed⟩
  | drain => exact ⟨attended, attended', length, .inl (sameEntry_of_none rfl rfl)⟩

theorem Spared.runs (spared : Spared t config gid s s') {ops : List (TableOp M)}
    (open_ : Unrevived wire config t gid s ops) :
    Spared t config gid (s.runs wire config ops) (s'.runs wire config ops) := by
  induction ops generalizing s s' with
  | nil => exact spared
  | cons op rest ih => exact ih (spared.run op open_.1) open_.2

/-- What is authorized in the first table is in the second one, with the same answer. -/
theorem Spared.authorizes (spared : Spared t config gid s s') {call : Call M} (later : t ≤ call.time)
    {answer : Answer B} (answered : (s.call wire config gid call).1 = some answer)
    (authorizes : answer.authorizes = true) : (s'.call wire config gid call).1 = some answer := by
  rcases spared.player with ⟨entry, behind⟩ | ⟨_, arc, session, mapped, here, lapsed⟩
  · cases mapped : s.get gid with
    | none => simp [ClientSessions.call, mapped] at answered
    | some arc =>
      rw [← answered]
      simp only [ClientSessions.call, entry.trans mapped, mapped, behind arc mapped]
      cases s.arcs[arc]? with
      | none => rfl
      | some session =>
        dsimp only
        split <;> rfl
  · have refused : (s.call wire config gid call).1 = some (call.exec wire config session).1 := by
      simp only [ClientSessions.call, mapped, here]
      split <;> simp_all
    obtain rfl := Option.some.inj (refused.symm.trans answered)
    rw [Call.lapsed_refused lapsed wire later] at authorizes
    cases authorizes

end ClientSessions

/-- A stream operation that is refused changes no later answer, and `prune_expired`
takes no session away from a reconnect that could still be authorized, also after
further operations, as long as none of them completes a reconnect of the player's
lapsed session. -/
theorem refusals_are_invisible (wire : Wire M B) (valid : ValidSessionConfig) :
    let config := valid.toSessionConfig
    (∀ (s : ClientSession B) (call : Call M), (call.exec wire config s).1.refused = true →
      ∀ later : List (Call M), (∀ c ∈ later, call.time ≤ c.time) →
        Call.answers wire config (call.exec wire config s).2 later = Call.answers wire config s later)
    ∧ ∀ s : ClientSessions B, (ClientSessions.table wire valid).Reach System.Any s →
      ∀ (now : Nat) (gid : Gid) (ops : List (TableOp M)), ClientSessions.Unrevived wire config now gid s ops →
        ∀ call : Call M, now ≤ call.time → ∀ answer,
          ((s.runs wire config ops).call wire config gid call).1 = some answer → answer.authorizes = true →
          (((s.pruneExpired now config).runs wire config ops).call wire config gid call).1 = some answer := by
  intro config
  constructor
  · intro s call refused later notBefore
    exact Call.answers_alike (Call.refused_alike wire refused) wire notBefore
  · intro s reached now gid ops open_ call later answer answered authorizes
    have attended := ClientSessions.attended_of_reach reached
    have spared := (attended.spared now config gid wire).runs open_
    exact spared.authorizes later answered authorizes

/-- A session with one old message, which the client has not acknowledged. -/
def unacknowledged : ClientSession Unit :=
  { (ClientSession.new ⟨7⟩ ⟨1, 2⟩ 0 : ClientSession Unit) with
    conn := none
    serverSeq := 1
    outbox := [⟨1, 0, ()⟩]
    disconnectedAt := some 50000000000 }

/-- A reconnect is refused for the gap and drops the message; the next one does
not see the difference. -/
theorem unacknowledged_refused :
    let refused : Call Unit := .authorizeReconnect 7 1 0 70000000000
    let later : List (Call Unit) :=
      [.authorizeReconnect 7 1 0 80000000000, .authorizeReconnect 7 1 1 90000000000]
    (refused.exec Gateway.blankWire SessionConfig.HARD_LIMITS unacknowledged).2 ≠ unacknowledged
      ∧ Call.answers Gateway.blankWire SessionConfig.HARD_LIMITS
          (refused.exec Gateway.blankWire SessionConfig.HARD_LIMITS unacknowledged).2 later
        = Call.answers Gateway.blankWire SessionConfig.HARD_LIMITS unacknowledged later := by
  refine ⟨by decide +kernel, ?_⟩
  apply (refusals_are_invisible Gateway.blankWire .hardLimits).1
  · decide +kernel
  · intro c member
    simp only [List.mem_cons, List.not_mem_nil, or_false] at member
    rcases member with rfl | rfl <;> decide

/-- A session that was disconnected at time 0, and a reconnect that was authorized
after 59 seconds. -/
def authorizedInTime : List (TableOp Unit) :=
  [.installLogin 5 ⟨7⟩ ⟨1, 2⟩ 0, .call 5 (.disconnect 7 0), .call 5 (.authorizeReconnect 7 1 0 59000000000)]

/-- `complete_reconnect` does not ask for the time: after 61 seconds it still brings the
session back, unless `prune_expired` comes first, and the next reconnect is
authorized. -/
theorem pruned_before_completion :
    ¬ ∀ s : ClientSessions Unit, (ClientSessions.table Gateway.blankWire .hardLimits).Reach System.Any s →
      ∀ (now : Nat) (gid : Gid) (ops : List (TableOp Unit)) (call : Call Unit),
        (∀ op ∈ ops, op.NotBefore now) → now ≤ call.time → ∀ answer,
          ((s.runs Gateway.blankWire .HARD_LIMITS ops).call Gateway.blankWire .HARD_LIMITS gid call).1
            = some answer → answer.authorizes = true →
          ∃ answer', (((s.pruneExpired now .HARD_LIMITS).runs Gateway.blankWire .HARD_LIMITS ops).call
            Gateway.blankWire .HARD_LIMITS gid call).1 = some answer' ∧ answer'.authorizes = true := by
  intro invisible
  let ops : List (TableOp Unit) := [.call 5 (.completeReconnect 7 ⟨8⟩ 1 0 61000000000)]
  let call : Call Unit := .authorizeReconnect 8 2 0 62000000000
  have run : ∃ s, System.follow System.Any
        (fun (s : ClientSessions Unit) op => some (s.run Gateway.blankWire SessionConfig.HARD_LIMITS op))
        .new authorizedInTime = some s
      ∧ ((s.runs Gateway.blankWire .HARD_LIMITS ops).call Gateway.blankWire .HARD_LIMITS 5 call).1.any
        Answer.authorizes = true
      ∧ (((s.pruneExpired 61000000000 .HARD_LIMITS).runs Gateway.blankWire .HARD_LIMITS ops).call
        Gateway.blankWire .HARD_LIMITS 5 call).1.isNone = true := by
    decide +kernel
  obtain ⟨s, followed, authorized, refused⟩ := run
  obtain ⟨answer, answered, authorizes⟩ := (Option.any_eq_true _ _).mp authorized
  have notBefore : ∀ op ∈ ops, op.NotBefore 61000000000 := by
    intro op member
    obtain rfl := List.mem_singleton.mp member
    exact Nat.le_refl 61000000000
  obtain ⟨_, answered', _⟩ := invisible s (System.reach_of_follow rfl followed) 61000000000 5 ops call notBefore
    (by decide) answer answered authorizes
  rw [answered'] at refused
  cases refused

end Xkk.Gate
