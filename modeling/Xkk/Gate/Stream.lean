import Xkk.Gate.Session
import Xkk.Lib.Queue
import Xkk.Lib.Transition

/-! # Runs of one client stream

The code numbers the messages of a stream modulo `2 ^ 32`.  `Stream` runs one
`ClientSession` and keeps beside it, outside of the code, what a proof has to
know about the past: the unwrapped number of every message, which messages left
the outbox, which of them the count bound evicted, and the largest
acknowledgement that was applied.

`Numbered` connects the two: the outbox is the kept part of the history, number
by number, and `dropped_through` is the number of the last message that was
evicted or grew too old.
-/

namespace Xkk.Gate

open Xkk.Lib

/-- An outbox-eligible message with its place in the stream. -/
structure Issued (B : Type) where
  number : Nat
  sentAt : Nat
  payload : B
deriving DecidableEq, Repr

def Issued.message {B : Type} (m : Issued B) : OutboxMessage B :=
  ⟨UInt32.ofNat m.number, m.sentAt, m.payload⟩

structure Stream (B : Type) where
  session : ClientSession B
  count : Nat                  -- `encode` calls so far: the unwrapped `server_seq`
  departed : List (Issued B)   -- eligible messages that left the outbox, in issue order
  kept : List (Issued B)       -- eligible messages in the outbox
  dropped : Option Nat         -- the unwrapped `dropped_through`
  evicted : List Nat           -- numbers of the messages the count bound evicted
  acked : Nat                  -- the last acknowledgement that was applied
  acknowledged : List Nat      -- numbers of the messages that `acknowledge_outbox` removed
  clock : Nat
deriving DecidableEq, Repr

namespace Stream

variable {M B : Type}

/-- Every outbox-eligible message of the stream, in issue order. -/
def issued (s : Stream B) : List (Issued B) := s.departed ++ s.kept

def new (conn : Connection) (routes : Routes) (clientSeq : UInt32) (now : Nat) : Stream B where
  session := .new conn routes clientSeq
  count := 0
  departed := []
  kept := []
  dropped := none
  evicted := []
  acked := 0
  acknowledged := []
  clock := now

/-- The first `n` messages leave the outbox. -/
def depart (s : Stream B) (n : Nat) : Stream B :=
  { s with departed := s.departed ++ s.kept.take n, kept := s.kept.drop n }

/-- How many messages are missing from the outbox of `session`. -/
def missing (s : Stream B) (session : ClientSession B) : Nat :=
  s.session.outbox.length - session.outbox.length

def prune (s : Stream B) (now ttl : Nat) : Stream B :=
  let session := s.session.pruneOutbox now ttl
  let left := s.kept.take (s.missing session)
  { s.depart (s.missing session) with
    session := session
    dropped := (left.getLast?.map (·.number)).or s.dropped }

def acknowledge (s : Stream B) (ack : Nat) : Stream B :=
  let session := s.session.acknowledgeOutbox (UInt32.ofNat ack)
  { s.depart (s.missing session) with
    session := session
    acked := ack
    acknowledged := s.acknowledged ++ (s.kept.take (s.missing session)).map (·.number) }

def evict (s : Stream B) : Stream B :=
  let numbers := (s.kept.take 1).map (·.number)
  { s.depart 1 with
    session := s.session.evictOldest
    dropped := numbers.head?.or s.dropped
    evicted := s.evicted ++ numbers }

def makeRoom (s : Stream B) (now : Nat) (config : SessionConfig) : Stream B :=
  let s := s.prune now config.resumeTtl
  if s.session.outbox.length = config.outboxMessages then s.evict else s

/-- The next number is taken, whether or not the message can be encoded. -/
def advance (s : Stream B) (now : Nat) : Stream B :=
  { s with
    session := { s.session with serverSeq := s.session.serverSeq + 1 }
    count := s.count + 1
    clock := now }

/-- `encode`: the history is advanced by the three operations on the outbox
    that the code performs, `session` by the code itself. -/
def encode (wire : Wire M B) (s : Stream B) (msgid : MsgId) (message : M) (now : Nat)
    (config : SessionConfig) : Stream B :=
  let result := s.session.encode wire msgid message now config
  let s := s.advance now
  match result.1 with
  | none => { s with session := result.2 }
  | some payload =>
    if isOutboxMessage wire.systemMsgIdEnd msgid.asU16 then
      let s := s.makeRoom now config
      { s with session := result.2, kept := s.kept ++ [⟨s.count, now, payload⟩] }
    else { s with session := result.2 }

def acceptSequence (s : Stream B) (sessionId : SessionId) (seq : UInt32) (ack now : Nat)
    (config : SessionConfig) : Stream B :=
  let result := s.session.acceptSequence sessionId seq (UInt32.ofNat ack) now config.resumeTtl
  let s := { s with clock := now }
  match result.1 with
  | .error _ => { s with session := result.2 }
  | .ok _ => { (s.prune now config.resumeTtl).acknowledge ack with session := result.2 }

/-- `accept_request` acknowledges exactly when its `accept_sequence` does. -/
def acceptRequest (s : Stream B) (sessionId : SessionId) (seq : UInt32) (ack now : Nat)
    (config : SessionConfig) : Stream B :=
  { s.acceptSequence sessionId seq ack now config with
    session := (s.session.acceptRequest sessionId seq (UInt32.ofNat ack) now config).2 }

def disconnect (s : Stream B) (sessionId : SessionId) (now : Nat) : Stream B :=
  { s with session := (s.session.disconnect sessionId now).2, clock := now }

def authorizeReconnect (s : Stream B) (previousSession : SessionId) (clientSeq : UInt32)
    (ack now : Nat) (config : SessionConfig) : Stream B :=
  let result := s.session.authorizeReconnect previousSession clientSeq (UInt32.ofNat ack) now config
  let authorized := s.session.authorizes previousSession clientSeq now config
  let s := { s with clock := now }
  if authorized then { s.prune now config.resumeTtl with session := result.2 }
  else { s with session := result.2 }

def completeReconnect (s : Stream B) (previousSession : SessionId) (conn : Connection)
    (clientSeq : UInt32) (ack now : Nat) (config : SessionConfig) : Stream B :=
  let result :=
    s.session.completeReconnect previousSession conn clientSeq (UInt32.ofNat ack) now config
  let s := { s with clock := now }
  match result.1 with
  | .ok _ => { (s.prune now config.resumeTtl).acknowledge ack with session := result.2 }
  | .error .outboxGap => { s.prune now config.resumeTtl with session := result.2 }
  | .error _ => { s with session := result.2 }

/-- The messages that `complete_reconnect` hands out for replay, under their
    numbers. -/
def replayOf (s : Stream B) (ack : Nat) : List (Issued B) :=
  s.kept.filter fun m => seqAfter m.message.seq (UInt32.ofNat ack)

theorem replayOf_sublist (s : Stream B) (ack : Nat) : (s.replayOf ack).Sublist s.kept :=
  List.filter_sublist

/-! ## Runs -/

inductive Op (M : Type) where
  | encode (msgid : MsgId) (message : M) (now : Nat)
  | acceptSequence (sessionId : SessionId) (seq : UInt32) (ack now : Nat)
  | acceptRequest (sessionId : SessionId) (seq : UInt32) (ack now : Nat)
  | disconnect (sessionId : SessionId) (now : Nat)
  | authorizeReconnect (previousSession : SessionId) (clientSeq : UInt32) (ack now : Nat)
  | completeReconnect (previousSession : SessionId) (conn : Connection) (clientSeq : UInt32)
      (ack now : Nat)

def step (wire : Wire M B) (config : SessionConfig) (s : Stream B) : Op M → Stream B
  | .encode msgid message now => s.encode wire msgid message now config
  | .acceptSequence sessionId seq ack now => s.acceptSequence sessionId seq ack now config
  | .acceptRequest sessionId seq ack now => s.acceptRequest sessionId seq ack now config
  | .disconnect sessionId now => s.disconnect sessionId now
  | .authorizeReconnect previous clientSeq ack now =>
    s.authorizeReconnect previous clientSeq ack now config
  | .completeReconnect previous conn clientSeq ack now =>
    s.completeReconnect previous conn clientSeq ack now config

def Op.time : Op M → Nat
  | .encode _ _ now | .acceptSequence _ _ _ now | .acceptRequest _ _ _ now | .disconnect _ now
  | .authorizeReconnect _ _ _ now | .completeReconnect _ _ _ _ now => now

/-- The unwrapped acknowledgement that the client presents. -/
def Op.ack? : Op M → Option Nat
  | .acceptSequence _ _ ack _ | .acceptRequest _ _ ack _ | .authorizeReconnect _ _ ack _
  | .completeReconnect _ _ _ ack _ => some ack
  | .encode .. | .disconnect .. => none

/-- `server_seq`, `dropped_through` and every retained sequence are less than
    `2 ^ 31` apart. -/
def Window (s : Stream B) : Prop :=
  (∀ m ∈ s.kept, s.count < m.number + 2 ^ 31) ∧ ∀ d ∈ s.dropped, s.count < d + 2 ^ 31

/-- The client acknowledges a message that was issued (or none, by zero), not
    an older one than before, and one inside the window. -/
def Presents (s : Stream B) (ack : Nat) : Prop :=
  s.acked ≤ ack ∧ ack ≤ s.count ∧ s.count < ack + 2 ^ 31

/-- What the environment of the stream guarantees for an operation. -/
def Admissible (s : Stream B) (op : Op M) : Prop :=
  s.clock ≤ op.time ∧ s.Window ∧ ∀ ack ∈ op.ack?, s.Presents ack

instance (s : Stream B) (op : Op M) : Decidable (s.Admissible op) :=
  inferInstanceAs (Decidable (_ ∧ ((∀ m ∈ s.kept, _ < _) ∧ ∀ d ∈ s.dropped, _ < _) ∧
    ∀ ack ∈ op.ack?, _ ≤ _ ∧ _ ≤ _ ∧ _ < _))

/-- All runs of one session from `ClientSession::new`. -/
def system (wire : Wire M B) (config : ValidSessionConfig) : System (Stream B) (Op M) :=
  .ofFun (fun s => ∃ conn routes clientSeq now, s = .new conn routes clientSeq now)
    fun s op => some (s.step wire config.toSessionConfig op)

/-! ## The history describes the session -/

/-- The outbox is the kept part of the history. -/
def Mirrors (s : Stream B) : Prop := s.session.outbox = s.kept.map Issued.message

structure Numbered (ttl : Nat) (s : Stream B) : Prop where
  serverSeq : s.session.serverSeq = UInt32.ofNat s.count
  outbox : s.Mirrors
  droppedThrough : s.session.droppedThrough = s.dropped.map UInt32.ofNat
  numbers : s.issued.Pairwise fun m n => m.number < n.number
  numberLe : ∀ m ∈ s.issued, m.number ≤ s.count
  times : s.issued.Pairwise fun m n => m.sentAt ≤ n.sentAt
  timeLe : ∀ m ∈ s.issued, m.sentAt ≤ s.clock
  -- whatever is missing was acknowledged, or lies at or before the mark
  covered : ∀ m ∈ s.departed, m.number ≤ s.acked ∨ ∃ d ∈ s.dropped, m.number ≤ d
  -- the mark itself is a message that was evicted or is too old
  droppedFrom : ∀ d ∈ s.dropped, ∃ m ∈ s.departed, m.number = d
    ∧ (d ∈ s.evicted ∨ ttl < s.clock - m.sentAt)
  evictedLe : ∀ e ∈ s.evicted, ∃ d ∈ s.dropped, e ≤ d

variable {ttl : Nat} {s : Stream B}

theorem numbered_new (ttl : Nat) (conn : Connection) (routes : Routes) (clientSeq : UInt32)
    (now : Nat) : Numbered ttl (Stream.new conn routes clientSeq now : Stream B) where
  serverSeq := rfl
  outbox := rfl
  droppedThrough := rfl
  numbers := .nil
  numberLe := by intro m member; cases member
  times := .nil
  timeLe := by intro m member; cases member
  covered := by intro m member; cases member
  droppedFrom := by intro d member; cases member
  evictedLe := by intro e member; cases member

/-- Only three fields of the session matter. -/
theorem Numbered.with_session (inv : Numbered ttl s) {session : ClientSession B}
    (serverSeq : session.serverSeq = s.session.serverSeq)
    (outbox : session.outbox = s.session.outbox)
    (droppedThrough : session.droppedThrough = s.session.droppedThrough) :
    Numbered ttl { s with session := session } :=
  { inv with
    serverSeq := serverSeq.trans inv.serverSeq
    outbox := outbox.trans inv.outbox
    droppedThrough := droppedThrough.trans inv.droppedThrough }

/-- Time passes. -/
theorem Numbered.later (inv : Numbered ttl s) {now : Nat} (later : s.clock ≤ now) :
    Numbered ttl { s with clock := now } where
  serverSeq := inv.serverSeq
  outbox := inv.outbox
  droppedThrough := inv.droppedThrough
  numbers := inv.numbers
  numberLe := inv.numberLe
  times := inv.times
  timeLe := by
    intro m member
    exact Nat.le_trans (inv.timeLe m member) later
  covered := inv.covered
  droppedFrom := by
    intro d isMark
    obtain ⟨m, member, same, reason⟩ := inv.droppedFrom d isMark
    refine ⟨m, member, same, reason.imp_right fun old => ?_⟩
    dsimp only
    omega
  evictedLe := inv.evictedLe

@[simp] theorem issued_depart (s : Stream B) (n : Nat) : (s.depart n).issued = s.issued := by
  simp [issued, depart, List.append_assoc, List.take_append_drop]

@[simp] theorem issued_prune (s : Stream B) (now ttl : Nat) :
    (s.prune now ttl).issued = s.issued := issued_depart s _

@[simp] theorem issued_acknowledge (s : Stream B) (ack : Nat) :
    (s.acknowledge ack).issued = s.issued := issued_depart s _

@[simp] theorem issued_evict (s : Stream B) : s.evict.issued = s.issued := issued_depart s _

/-- What a loop that pops the front of the outbox does to the history. -/
theorem depart_of_dropWhile (mirrors : s.Mirrors) (session : ClientSession B)
    {p : OutboxMessage B → Bool} (popped : session.outbox = s.session.outbox.dropWhile p) :
    s.kept.take (s.missing session) = s.kept.takeWhile (p ∘ Issued.message)
    ∧ s.kept.drop (s.missing session) = s.kept.dropWhile (p ∘ Issued.message)
    ∧ session.outbox = (s.kept.drop (s.missing session)).map Issued.message := by
  have count : s.missing session = (s.kept.takeWhile (p ∘ Issued.message)).length := by
    rw [missing, popped, mirrors, Queue.missing_eq]
  rw [count, Queue.take_missing, Queue.drop_missing]
  refine ⟨rfl, rfl, ?_⟩
  rw [popped, mirrors, List.dropWhile_map]

theorem kept_numbers (inv : Numbered ttl s) :
    s.kept.Pairwise fun m n => m.number < n.number :=
  (List.pairwise_append.mp inv.numbers).2.1

theorem departed_lt_kept (inv : Numbered ttl s) {m n : Issued B} (left : m ∈ s.departed)
    (stays : n ∈ s.kept) : m.number < n.number :=
  (List.pairwise_append.mp inv.numbers).2.2 m left n stays

/-! ## Pruning -/

def expired (now ttl : Nat) (m : Issued B) : Bool := now - m.sentAt > ttl

theorem prune_kept (mirrors : s.Mirrors) (now ttl : Nat) :
    s.kept.take (s.missing (s.session.pruneOutbox now ttl)) = s.kept.takeWhile (expired now ttl)
    ∧ (s.prune now ttl).kept = s.kept.dropWhile (expired now ttl)
    ∧ (s.prune now ttl).Mirrors := by
  have popped : (s.session.pruneOutbox now ttl).outbox =
      s.session.outbox.dropWhile fun message => now - message.sentAt > ttl := by
    simp [ClientSession.pruneOutbox, ClientSession.pruneLoop_eq]
  exact depart_of_dropWhile mirrors _ popped

theorem numbered_prune (inv : Numbered ttl s) (now : Nat) (clock : s.clock = now) :
    Numbered ttl (s.prune now ttl) := by
  obtain ⟨taken, _, outbox⟩ := prune_kept inv.outbox now ttl
  have sub : (s.kept.takeWhile (expired now ttl)).Sublist s.kept := List.takeWhile_sublist _
  have departed : (s.prune now ttl).departed =
      s.departed ++ s.kept.takeWhile (expired now ttl) := by simp [prune, depart, taken]
  have dropped : (s.prune now ttl).dropped =
      ((s.kept.takeWhile (expired now ttl)).getLast?.map (·.number)).or s.dropped := by
    simp [prune, taken]
  have mark : (s.prune now ttl).session.droppedThrough =
      (s.prune now ttl).dropped.map UInt32.ofNat := by
    rw [dropped]
    change (ClientSession.pruneLoop now ttl s.session.outbox s.session.droppedThrough).2 = _
    rw [ClientSession.pruneLoop_eq, inv.outbox, List.takeWhile_map, List.getLast?_map]
    have same : (fun message : OutboxMessage B => decide (now - message.sentAt > ttl)) ∘ Issued.message
        = expired now ttl := rfl
    rw [same]
    cases (s.kept.takeWhile (expired now ttl)).getLast? with
    | none => simpa using inv.droppedThrough
    | some last => rfl
  refine ⟨inv.serverSeq, outbox, mark, ?_, ?_, ?_, ?_, ?_, ?_, ?_⟩
  · rw [issued_prune]; exact inv.numbers
  · rw [issued_prune]; exact inv.numberLe
  · rw [issued_prune]; exact inv.times
  · rw [issued_prune]; exact inv.timeLe
  · intro m member
    rw [departed] at member
    rw [dropped]
    cases last : (s.kept.takeWhile (expired now ttl)).getLast? with
    | none =>
      have empty := List.getLast?_eq_none_iff.mp last
      rw [empty, List.append_nil] at member
      exact inv.covered m member
    | some popped =>
      -- the mark moves to the last message that was popped, which is the largest
      have inKept := sub.subset (List.mem_of_getLast? last)
      refine .inr ⟨popped.number, by simp, ?_⟩
      rcases List.mem_append.mp member with before | now
      · exact Nat.le_of_lt (departed_lt_kept inv before inKept)
      · rcases Queue.le_getLast ((kept_numbers inv).sublist sub) last m now with rfl | lt
        · exact Nat.le_refl _
        · exact Nat.le_of_lt lt
  · intro d isMark
    rw [dropped] at isMark
    rw [departed]
    cases last : (s.kept.takeWhile (expired now ttl)).getLast? with
    | none =>
      simp only [last, Option.map_none, Option.none_or] at isMark
      obtain ⟨m, member, same, reason⟩ := inv.droppedFrom d isMark
      exact ⟨m, List.mem_append_left _ member, same, reason⟩
    | some popped =>
      simp only [last, Option.map_some, Option.some_or, Option.mem_some_iff] at isMark
      have member := List.mem_of_getLast? last
      refine ⟨popped, List.mem_append_right _ member, isMark, .inr ?_⟩
      have old := List.mem_takeWhile_imp member
      simp only [expired, decide_eq_true_eq] at old
      have sameClock : (s.prune now ttl).clock = now := clock
      omega
  · intro e member
    obtain ⟨d, isMark, le⟩ := inv.evictedLe e member
    rw [dropped]
    cases last : (s.kept.takeWhile (expired now ttl)).getLast? with
    | none => exact ⟨d, by simpa using isMark, le⟩
    | some popped =>
      obtain ⟨m, left, same, _⟩ := inv.droppedFrom d isMark
      have lt := departed_lt_kept inv left (sub.subset (List.mem_of_getLast? last))
      exact ⟨popped.number, by simp, by omega⟩

/-- Pruning leaves no message outside of the window. -/
theorem prune_near (inv : Numbered ttl s) {now : Nat}
    (near : ∀ m ∈ s.kept, s.count < m.number + 2 ^ 31) :
    ∀ m ∈ (s.prune now ttl).kept, s.count < m.number + 2 ^ 31 := by
  intro m member
  rw [(prune_kept inv.outbox now ttl).2.1] at member
  exact near m ((List.dropWhile_sublist _).subset member)

/-- After pruning nothing in the outbox is too old. -/
theorem prune_fresh (inv : Numbered ttl s) {now : Nat} {m : Issued B}
    (member : m ∈ (s.prune now ttl).kept) : now - m.sentAt ≤ ttl := by
  rw [(prune_kept inv.outbox now ttl).2.1, Queue.dropWhile_eq_filter] at member
  · have fresh := (List.mem_filter.mp member).2
    simpa [expired] using fresh
  · refine (List.pairwise_append.mp inv.times).2.1.imp ?_
    intro a b le
    simp only [expired, decide_eq_true_eq]
    omega

/-! ## Acknowledging -/

theorem seqAfter_eq {number ack : Nat} (numberLe : number ≤ s.count)
    (near : s.count < number + 2 ^ 31) (presents : s.Presents ack) :
    seqAfter (UInt32.ofNat number) (UInt32.ofNat ack) = decide (ack < number) := by
  obtain ⟨_, issued, window⟩ := presents
  exact Serial.after_ofNat (by omega) (by omega)

theorem acknowledge_kept (inv : Numbered ttl s) {ack : Nat}
    (near : ∀ m ∈ s.kept, s.count < m.number + 2 ^ 31) (presents : s.Presents ack) :
    (s.acknowledge ack).departed = s.departed ++ s.kept.takeWhile (fun m => m.number ≤ ack)
    ∧ (s.acknowledge ack).kept = s.kept.filter (fun m => ack < m.number)
    ∧ (s.acknowledge ack).Mirrors := by
  obtain ⟨taken, rest, outbox⟩ := depart_of_dropWhile inv.outbox
    (s.session.acknowledgeOutbox (UInt32.ofNat ack)) rfl
  have test : ∀ m ∈ s.kept, (!seqAfter m.message.seq (UInt32.ofNat ack)) = decide (m.number ≤ ack) := by
    intro m member
    have numberLe := inv.numberLe m (List.mem_append_right _ member)
    rw [show m.message.seq = UInt32.ofNat m.number from rfl,
      seqAfter_eq numberLe (near m member) presents, ← decide_not, decide_eq_decide]
    omega
  have falling : Queue.Falling (fun m : Issued B => decide (m.number ≤ ack)) s.kept := by
    refine (kept_numbers inv).imp ?_
    intro a b lt
    simp only [decide_eq_true_eq]
    omega
  refine ⟨?_, ?_, outbox⟩
  · change s.departed ++ s.kept.take _ = _
    rw [taken]
    exact congrArg _ (Queue.takeWhile_congr test)
  · change s.kept.drop _ = _
    calc s.kept.drop (s.missing (s.session.acknowledgeOutbox (UInt32.ofNat ack)))
        = s.kept.dropWhile fun m => !seqAfter m.message.seq (UInt32.ofNat ack) := rest
      _ = s.kept.dropWhile fun m => m.number ≤ ack := Queue.dropWhile_congr test
      _ = s.kept.filter fun m => !decide (m.number ≤ ack) := Queue.dropWhile_eq_filter falling
      _ = s.kept.filter fun m => ack < m.number := by simp only [← decide_not, Nat.not_le]

theorem numbered_acknowledge (inv : Numbered ttl s) {ack : Nat}
    (near : ∀ m ∈ s.kept, s.count < m.number + 2 ^ 31) (presents : s.Presents ack) :
    Numbered ttl (s.acknowledge ack) := by
  obtain ⟨departed, _, outbox⟩ := acknowledge_kept inv near presents
  refine ⟨inv.serverSeq, outbox, inv.droppedThrough, ?_, ?_, ?_, ?_, ?_, ?_, inv.evictedLe⟩
  · rw [issued_acknowledge]; exact inv.numbers
  · rw [issued_acknowledge]; exact inv.numberLe
  · rw [issued_acknowledge]; exact inv.times
  · rw [issued_acknowledge]; exact inv.timeLe
  · intro m member
    rw [departed] at member
    rcases List.mem_append.mp member with before | now
    · rcases inv.covered m before with le | marked
      · exact .inl (Nat.le_trans le presents.1)
      · exact .inr marked
    · have le : m.number ≤ ack := by simpa using List.mem_takeWhile_imp now
      exact .inl le
  · intro d isMark
    obtain ⟨m, member, same, reason⟩ := inv.droppedFrom d isMark
    rw [departed]
    exact ⟨m, List.mem_append_left _ member, same, reason⟩

/-! ## Evicting -/

theorem mirrors_evict (mirrors : s.Mirrors) : s.evict.Mirrors := by
  have outbox : s.session.outbox = s.kept.map Issued.message := mirrors
  change s.session.evictOldest.outbox = (s.kept.drop 1).map Issued.message
  cases kept : s.kept with
  | nil => simp [ClientSession.evictOldest, outbox, kept]
  | cons oldest rest => simp [ClientSession.evictOldest, outbox, kept]

theorem numbered_evict (inv : Numbered ttl s) : Numbered ttl s.evict := by
  cases kept : s.kept with
  | nil =>
    -- nothing to evict: the history is unchanged
    have same : s.evict = s := by
      have empty : s.session.outbox = [] := by rw [inv.outbox, kept]; rfl
      have session : s.session.evictOldest = s.session := by
        simp [ClientSession.evictOldest, empty]
      simp [evict, depart, kept, session]
      rw [← kept]
    rw [same]
    exact inv
  | cons oldest rest =>
    have oldestKept : oldest ∈ s.kept := by rw [kept]; exact List.mem_cons_self
    have session : s.session.evictOldest =
        { s.session with outbox := rest.map Issued.message
                         droppedThrough := some (UInt32.ofNat oldest.number) } := by
      have outbox : s.session.outbox = s.kept.map Issued.message := inv.outbox
      simp only [ClientSession.evictOldest, outbox, kept, List.map_cons]
      rfl
    have departed : s.evict.departed = s.departed ++ [oldest] := by simp [evict, depart, kept]
    have dropped : s.evict.dropped = some oldest.number := by simp [evict, kept]
    have evicted : s.evict.evicted = s.evicted ++ [oldest.number] := by simp [evict, kept]
    have sameSession : s.evict.session = s.session.evictOldest := rfl
    refine ⟨?_, mirrors_evict inv.outbox, ?_, ?_, ?_, ?_, ?_, ?_, ?_, ?_⟩
    · rw [sameSession, session]; exact inv.serverSeq
    · rw [sameSession, session, dropped]; rfl
    · rw [issued_evict]; exact inv.numbers
    · rw [issued_evict]; exact inv.numberLe
    · rw [issued_evict]; exact inv.times
    · rw [issued_evict]; exact inv.timeLe
    · intro m member
      rw [departed] at member
      rw [dropped]
      refine .inr ⟨oldest.number, rfl, ?_⟩
      rcases List.mem_append.mp member with before | now
      · exact Nat.le_of_lt (departed_lt_kept inv before oldestKept)
      · rw [List.mem_singleton.mp now]
    · intro d isMark
      rw [dropped, Option.mem_some_iff] at isMark
      rw [departed, evicted]
      exact ⟨oldest, by simp, isMark, .inl (by simp [isMark])⟩
    · intro e member
      rw [evicted] at member
      rw [dropped]
      refine ⟨oldest.number, rfl, ?_⟩
      rcases List.mem_append.mp member with before | now
      · obtain ⟨d, isMark, le⟩ := inv.evictedLe e before
        obtain ⟨m, left, same, _⟩ := inv.droppedFrom d isMark
        have lt := departed_lt_kept inv left oldestKept
        omega
      · rw [List.mem_singleton.mp now]

/-! ## Every operation keeps the history -/

theorem numbered_advance (inv : Numbered ttl s) {now : Nat} (later : s.clock ≤ now) :
    Numbered ttl (s.advance now) :=
  { inv.later later with
    serverSeq := by
      change s.session.serverSeq + 1 = UInt32.ofNat (s.count + 1)
      rw [inv.serverSeq, UInt32.ofNat_add]
      rfl
    numberLe := by
      intro m member
      exact Nat.le_succ_of_le (inv.numberLe m member) }

theorem makeRoom_session (s : Stream B) (now : Nat) (config : SessionConfig) :
    (s.makeRoom now config).session = s.session.makeRoom now config := by
  rw [makeRoom, ClientSession.makeRoom, apply_ite Stream.session]
  rfl

@[simp] theorem makeRoom_count (s : Stream B) (now : Nat) (config : SessionConfig) :
    (s.makeRoom now config).count = s.count := by
  rw [makeRoom, apply_ite Stream.count]
  exact ite_self _

@[simp] theorem makeRoom_clock (s : Stream B) (now : Nat) (config : SessionConfig) :
    (s.makeRoom now config).clock = s.clock := by
  rw [makeRoom, apply_ite Stream.clock]
  exact ite_self _

@[simp] theorem makeRoom_acknowledged (s : Stream B) (now : Nat) (config : SessionConfig) :
    (s.makeRoom now config).acknowledged = s.acknowledged := by
  rw [makeRoom, apply_ite Stream.acknowledged]
  exact ite_self _

@[simp] theorem issued_makeRoom (s : Stream B) (now : Nat) (config : SessionConfig) :
    (s.makeRoom now config).issued = s.issued := by
  rw [makeRoom, apply_ite Stream.issued, issued_evict, issued_prune, ite_self]

theorem numbered_makeRoom {config : SessionConfig} (inv : Numbered config.resumeTtl s) {now : Nat}
    (clock : s.clock = now) : Numbered config.resumeTtl (s.makeRoom now config) := by
  have pruned := numbered_prune inv now clock
  rw [makeRoom]
  split
  · exact numbered_evict pruned
  · exact pruned

theorem mirrors_append (serverSeq : s.session.serverSeq = UInt32.ofNat s.count)
    (mirrors : s.Mirrors) (now : Nat) (payload : B) :
    Mirrors
      { s with
        session := { s.session with
          outbox := s.session.outbox ++ [⟨s.session.serverSeq, now, payload⟩] }
        kept := s.kept ++ [⟨s.count, now, payload⟩] } := by
  change s.session.outbox ++ _ = (s.kept ++ _).map Issued.message
  rw [mirrors, serverSeq, List.map_append]
  rfl

/-- A new message is the youngest. -/
theorem numbered_append (inv : Numbered ttl s) (below : ∀ m ∈ s.issued, m.number < s.count)
    {now : Nat} (clock : s.clock = now) (payload : B) :
    Numbered ttl
      { s with
        session := { s.session with
          outbox := s.session.outbox ++ [⟨s.session.serverSeq, now, payload⟩] }
        kept := s.kept ++ [⟨s.count, now, payload⟩] } := by
  subst clock
  have issued : Stream.issued { s with kept := s.kept ++ [⟨s.count, s.clock, payload⟩] } =
      s.issued ++ [⟨s.count, s.clock, payload⟩] := by simp [Stream.issued]
  refine ⟨inv.serverSeq, mirrors_append inv.serverSeq inv.outbox _ payload, inv.droppedThrough,
    ?_, ?_, ?_, ?_, inv.covered, inv.droppedFrom, inv.evictedLe⟩
  · change (Stream.issued { s with kept := _ }).Pairwise _
    rw [issued]
    exact List.pairwise_append.mpr ⟨inv.numbers, List.pairwise_singleton _ _, by simpa using below⟩
  · change ∀ m ∈ Stream.issued { s with kept := _ }, m.number ≤ s.count
    rw [issued]
    intro m member
    rcases List.mem_append.mp member with before | now
    · exact inv.numberLe m before
    · rw [List.mem_singleton.mp now]
  · change (Stream.issued { s with kept := _ }).Pairwise _
    rw [issued]
    exact List.pairwise_append.mpr
      ⟨inv.times, List.pairwise_singleton _ _, by simpa using inv.timeLe⟩
  · change ∀ m ∈ Stream.issued { s with kept := _ }, m.sentAt ≤ s.clock
    rw [issued]
    intro m member
    rcases List.mem_append.mp member with before | now
    · exact inv.timeLe m before
    · rw [List.mem_singleton.mp now]

theorem numbered_encode (wire : Wire M B) {config : SessionConfig}
    (inv : Numbered config.resumeTtl s) {now : Nat} (later : s.clock ≤ now) (msgid : MsgId)
    (message : M) : Numbered config.resumeTtl (s.encode wire msgid message now config) := by
  have advanced := numbered_advance inv later
  cases encoded : wire.encodeMessage
      ⟨msgid.asU16, s.session.serverSeq + 1, s.session.clientSeq⟩ message with
  | none =>
    simp only [encode, ClientSession.encode, encoded]
    exact advanced
  | some payload =>
    by_cases eligible : isOutboxMessage wire.systemMsgIdEnd msgid.asU16 = true
    · have below : ∀ m ∈ ((s.advance now).makeRoom now config).issued,
          m.number < ((s.advance now).makeRoom now config).count := by
        intro m member
        rw [issued_makeRoom] at member
        rw [makeRoom_count]
        exact Nat.lt_succ_of_le (inv.numberLe m member)
      have appended := numbered_append (numbered_makeRoom advanced rfl) below
        (makeRoom_clock _ _ _) payload
      rw [makeRoom_session] at appended
      simp only [encode, ClientSession.encode, encoded, eligible, if_true]
      exact appended
    · simp only [encode, ClientSession.encode, encoded, eligible]
      exact advanced

theorem numbered_acceptSequence {config : SessionConfig} (inv : Numbered config.resumeTtl s)
    {ack now : Nat} (later : s.clock ≤ now) (window : s.Window) (presents : s.Presents ack)
    (sessionId : SessionId) (seq : UInt32) :
    Numbered config.resumeTtl (s.acceptSequence sessionId seq ack now config) := by
  have moved := inv.later later
  have pruned := numbered_prune moved now rfl
  have acknowledged := numbered_acknowledge pruned (prune_near moved window.1) presents
  rcases s.session.acceptSequence_cases sessionId seq (UInt32.ofNat ack) now config.resumeTtl with
    ⟨error, result⟩ | ⟨_, _, _, result⟩
  · simp only [acceptSequence, result]
    exact moved
  · simp only [acceptSequence, result]
    exact acknowledged.with_session rfl rfl rfl

theorem acceptSequence_session (s : Stream B) (sessionId : SessionId) (seq : UInt32) (ack now : Nat)
    (config : SessionConfig) :
    (s.acceptSequence sessionId seq ack now config).session =
      (s.session.acceptSequence sessionId seq (UInt32.ofNat ack) now config.resumeTtl).2 := by
  rcases s.session.acceptSequence_cases sessionId seq (UInt32.ofNat ack) now config.resumeTtl with
    ⟨error, result⟩ | ⟨_, _, _, result⟩ <;> simp only [acceptSequence, result]

theorem numbered_acceptRequest {config : SessionConfig} (inv : Numbered config.resumeTtl s)
    {ack now : Nat} (later : s.clock ≤ now) (window : s.Window) (presents : s.Presents ack)
    (sessionId : SessionId) (seq : UInt32) :
    Numbered config.resumeTtl (s.acceptRequest sessionId seq ack now config) := by
  have accepted := numbered_acceptSequence inv later window presents sessionId seq
  obtain ⟨times, same⟩ :=
    s.session.acceptRequest_snd sessionId seq (UInt32.ofNat ack) now config
  rw [← acceptSequence_session] at same
  refine accepted.with_session ?_ ?_ ?_ <;> rw [same]

theorem numbered_authorizeReconnect {config : SessionConfig} (inv : Numbered config.resumeTtl s)
    {now : Nat} (later : s.clock ≤ now) (previous : SessionId) (clientSeq : UInt32) (ack : Nat) :
    Numbered config.resumeTtl (s.authorizeReconnect previous clientSeq ack now config) := by
  have moved := inv.later later
  rcases s.session.authorizeReconnect_cases previous clientSeq (UInt32.ofNat ack) now config with
    ⟨refused, result⟩ | ⟨granted, count, times, result⟩
  · simp only [authorizeReconnect, refused, result]
    exact moved
  · simp only [authorizeReconnect, granted, result, if_true]
    exact (numbered_prune moved now rfl).with_session rfl rfl rfl

theorem numbered_completeReconnect {config : SessionConfig} (inv : Numbered config.resumeTtl s)
    {ack now : Nat} (later : s.clock ≤ now) (window : s.Window) (presents : s.Presents ack)
    (previous : SessionId) (conn : Connection) (clientSeq : UInt32) :
    Numbered config.resumeTtl (s.completeReconnect previous conn clientSeq ack now config) := by
  have moved := inv.later later
  have pruned := numbered_prune moved now rfl
  rcases s.session.completeReconnect_cases previous conn clientSeq (UInt32.ofNat ack) now config with
    ⟨_, result⟩ | ⟨_, _, result⟩ | ⟨_, _, result⟩
  · simp only [completeReconnect, result]
    exact moved
  · simp only [completeReconnect, result]
    exact pruned
  · simp only [completeReconnect, result]
    exact (numbered_acknowledge pruned (prune_near moved window.1) presents).with_session rfl rfl rfl

theorem numbered_step (wire : Wire M B) {config : SessionConfig} (inv : Numbered config.resumeTtl s)
    {op : Op M} (admissible : s.Admissible op) :
    Numbered config.resumeTtl (s.step wire config op) := by
  obtain ⟨later, window, presents⟩ := admissible
  cases op with
  | encode msgid message now => exact numbered_encode wire inv later msgid message
  | acceptSequence sessionId seq ack now =>
    exact numbered_acceptSequence inv later window (presents ack rfl) sessionId seq
  | acceptRequest sessionId seq ack now =>
    exact numbered_acceptRequest inv later window (presents ack rfl) sessionId seq
  | disconnect sessionId now =>
    have moved := inv.later later
    rcases s.session.disconnect_snd sessionId now with result | result
    · exact moved.with_session (by rw [result]) (by rw [result]) (by rw [result])
    · exact moved.with_session (by rw [result]) (by rw [result]) (by rw [result])
  | authorizeReconnect previous clientSeq ack now =>
    exact numbered_authorizeReconnect inv later previous clientSeq ack
  | completeReconnect previous conn clientSeq ack now =>
    exact numbered_completeReconnect inv later window (presents ack rfl) previous conn clientSeq

theorem numbered_of_reach {wire : Wire M B} {config : ValidSessionConfig}
    (reached : (system wire config).Reach Admissible s) : Numbered config.resumeTtl s := by
  refine reached.inv ?_ ?_
  · rintro _ ⟨conn, routes, clientSeq, now, rfl⟩
    exact numbered_new _ conn routes clientSeq now
  · intro s op t inv admissible taken
    obtain rfl := Option.some.inj taken
    exact numbered_step wire inv admissible

/-! ## Reconnecting -/

/-- The gap check compares the acknowledgement with the unwrapped mark. -/
theorem outboxGap_eq (inv : Numbered ttl s) (near : ∀ d ∈ s.dropped, s.count < d + 2 ^ 31)
    {ack : Nat} (presents : s.Presents ack) :
    s.session.outboxGap (UInt32.ofNat ack) = true ↔ ∃ d ∈ s.dropped, ack < d := by
  rw [ClientSession.outboxGap, inv.droppedThrough]
  cases mark : s.dropped with
  | none => simp
  | some d =>
    obtain ⟨m, member, same, _⟩ := inv.droppedFrom d mark
    have le := inv.numberLe m (List.mem_append_left _ member)
    have close := near d mark
    obtain ⟨_, issued, window⟩ := presents
    have order : seqAtOrAfter (UInt32.ofNat ack) (UInt32.ofNat d) = decide (d ≤ ack) :=
      Serial.atOrAfter_ofNat (by omega) (by omega)
    simp [order]

/-- The mark of the pruned history stays in the window: it moves only to a
    message that the outbox still held. -/
theorem prune_dropped_near (inv : Numbered ttl s) (now : Nat) (window : s.Window) :
    ∀ d ∈ (s.prune now ttl).dropped, s.count < d + 2 ^ 31 := by
  intro d isMark
  have dropped : (s.prune now ttl).dropped =
      ((s.kept.takeWhile (expired now ttl)).getLast?.map (·.number)).or s.dropped := by
    simp [prune, (prune_kept inv.outbox now ttl).1]
  rw [dropped] at isMark
  cases last : (s.kept.takeWhile (expired now ttl)).getLast? with
  | none => exact window.2 d (by simpa [last] using isMark)
  | some m =>
    have member := (List.takeWhile_sublist _).subset (List.mem_of_getLast? last)
    have same : m.number = d := by simpa [last] using isMark
    have close := window.1 m member
    omega

/-- Without a gap every message after the acknowledgement is still kept. -/
theorem issued_after_eq (inv : Numbered ttl s) {ack : Nat} (presents : s.Presents ack)
    (noGap : ∀ d ∈ s.dropped, d ≤ ack) :
    s.issued.filter (fun m => ack < m.number) = s.kept.filter (fun m => ack < m.number) := by
  rw [issued, List.filter_append, List.filter_eq_nil_iff.mpr, List.nil_append]
  intro m member
  have le : m.number ≤ ack := by
    rcases inv.covered m member with acked | ⟨d, isMark, le⟩
    · exact Nat.le_trans acked presents.1
    · exact Nat.le_trans le (noGap d isMark)
  simpa using le

/-- There is a gap exactly when a message after the acknowledgement was evicted
    or grew too old. -/
theorem gap_iff (inv : Numbered ttl s) {ack : Nat} (now : Nat) (clock : s.clock = now)
    (fresh : ∀ m ∈ s.kept, now - m.sentAt ≤ ttl) (presents : s.Presents ack) :
    (∀ d ∈ s.dropped, d ≤ ack) ↔
      ∀ m ∈ s.issued, ack < m.number → m.number ∉ s.evicted ∧ now - m.sentAt ≤ ttl := by
  constructor
  · intro noGap m member newer
    have after : m ∈ s.issued.filter fun m => ack < m.number := by simp [member, newer]
    rw [issued_after_eq inv presents noGap] at after
    refine ⟨?_, fresh m (List.mem_filter.mp after).1⟩
    intro wasEvicted
    obtain ⟨d, isMark, le⟩ := inv.evictedLe _ wasEvicted
    have bound := noGap d isMark
    omega
  · intro retained d isMark
    by_contra newer
    obtain ⟨m, member, rfl, reason⟩ := inv.droppedFrom d isMark
    obtain ⟨notEvicted, young⟩ := retained m (List.mem_append_left _ member) (by omega)
    rcases reason with wasEvicted | old
    · exact notEvicted wasEvicted
    · omega

/-- The replay is the unacknowledged part of what is kept. -/
theorem replay_acknowledge (inv : Numbered ttl s) {ack : Nat}
    (near : ∀ m ∈ s.kept, s.count < m.number + 2 ^ 31) (presents : s.Presents ack) :
    (((s.session.acknowledgeOutbox (UInt32.ofNat ack)).outbox.filter
        fun message => seqAfter message.seq (UInt32.ofNat ack)).map (·.payload)) =
      (s.kept.filter fun m => ack < m.number).map (·.payload) := by
  obtain ⟨_, kept, outbox⟩ := acknowledge_kept inv near presents
  have outbox : (s.session.acknowledgeOutbox (UInt32.ofNat ack)).outbox = _ := outbox
  rw [outbox, kept, List.filter_eq_self.mpr, List.map_map]
  · rfl
  · intro message member
    obtain ⟨m, isAfter, rfl⟩ := List.mem_map.mp member
    obtain ⟨isKept, newer⟩ := List.mem_filter.mp isAfter
    have numberLe := inv.numberLe m (List.mem_append_right _ isKept)
    rw [show m.message.seq = UInt32.ofNat m.number from rfl,
      seqAfter_eq numberLe (near m isKept) presents]
    exact newer

/-- Reconnecting succeeds exactly when everything that the client has not
    acknowledged is still retained, and then replays exactly that. -/
theorem complete_reconnect_replays_unacknowledged (wire : Wire M B) (config : ValidSessionConfig)
    {s : Stream B} (reached : (system wire config).Reach Admissible s) {previous : SessionId}
    {conn : Connection} {clientSeq : UInt32} {ack now : Nat}
    (admissible : s.Admissible (.completeReconnect previous conn clientSeq ack now : Op M))
    (matching : s.session.sessionId = previous)
    (newer : seqAfter clientSeq s.session.clientSeq = true) :
    let result := (s.session.completeReconnect previous conn clientSeq (UInt32.ofNat ack) now
      config.toSessionConfig).1
    ((∃ resumed, result = .ok resumed) ↔
      ∀ m ∈ s.issued, ack < m.number → m.number ∉ s.evicted ∧ now - m.sentAt ≤ config.resumeTtl)
    ∧ ∀ resumed, result = .ok resumed →
      resumed.replay = (s.issued.filter fun m => ack < m.number).map (·.payload) := by
  obtain ⟨later, window, presents⟩ := admissible
  have presents := presents ack rfl
  have moved := (numbered_of_reach reached).later later
  have pruned := numbered_prune moved now rfl
  have close := prune_dropped_near moved now window
  have gap := outboxGap_eq pruned close presents
  have retained := gap_iff pruned now rfl
    (fun m member => prune_fresh moved member) presents
  rw [issued_prune] at retained
  rcases s.session.completeReconnect_cases previous conn clientSeq (UInt32.ofNat ack) now
      config.toSessionConfig with ⟨refused, _⟩ | ⟨_, isGap, result⟩ | ⟨_, noGap, result⟩
  · simp [ClientSession.resumable, matching, newer] at refused
  · simp only [result, reduceCtorEq, exists_false, false_iff, IsEmpty.forall_iff, implies_true,
      and_true]
    intro all
    obtain ⟨d, isMark, lt⟩ := gap.mp isGap
    have le := retained.mpr all d isMark
    omega
  · have noMark : ∀ d ∈ (Stream.prune { s with clock := now } now config.resumeTtl).dropped,
        d ≤ ack := by
      intro d isMark
      by_contra lt
      have isGap : (s.session.pruneOutbox now config.resumeTtl).outboxGap (UInt32.ofNat ack) = true :=
        gap.mpr ⟨d, isMark, by omega⟩
      rw [isGap] at noGap
      cases noGap
    simp only [result, Except.ok.injEq, exists_eq', true_iff]
    refine ⟨retained.mp noMark, ?_⟩
    rintro _ rfl
    have all := issued_after_eq pruned presents noMark
    rw [issued_prune] at all
    have replayed := replay_acknowledge pruned (prune_near moved window.1) presents
    rw [← all] at replayed
    exact replayed

/-- A wire whose frames are the heads, with messages that are never refused. -/
def headWire : Wire Unit CsHead where
  systemMsgIdEnd := 100
  encodeMessage head _ := some head

/-- Two notices are sent around a ping, the client reports the first one and
    loses its connection. -/
def resumeOps : List (Op Unit) :=
  [.encode .mailInfoNtf () 1, .encode .pingRsp () 2, .encode .mailInfoNtf () 3,
    .acceptSequence 7 1 1 4, .disconnect 7 5]

theorem resumeOps_replay :
    ∃ s : Stream CsHead, (system headWire .hardLimits).Reach Admissible s
    ∧ ∃ resumed,
      (s.session.completeReconnect 7 ⟨8⟩ 2 1 6 SessionConfig.HARD_LIMITS).1 = .ok resumed
      ∧ resumed.replay = [⟨MsgId.mailInfoNtf.asU16, 3, 0⟩] := by
  let start : Stream CsHead := .new ⟨7⟩ ⟨1, 2⟩ 0 0
  let s := (resumeOps.foldl (step headWire SessionConfig.HARD_LIMITS) start)
  have reached : (system headWire .hardLimits).Reach Admissible s :=
    System.reach_of_follow ⟨_, _, _, _, rfl⟩
      (show System.follow Admissible _ start resumeOps = some s by decide +kernel)
  have admissible : s.Admissible (.completeReconnect 7 ⟨8⟩ 2 1 6 : Op Unit) := by decide +kernel
  obtain ⟨succeeds, replays⟩ := complete_reconnect_replays_unacknowledged headWire .hardLimits
    reached admissible (by decide +kernel) (by decide +kernel)
  obtain ⟨resumed, ok⟩ := succeeds.mpr (by decide +kernel)
  refine ⟨s, reached, resumed, ok, ?_⟩
  rw [replays resumed ok]
  decide +kernel

end Stream

end Xkk.Gate
