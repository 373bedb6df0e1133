import Mathlib.Algebra.GroupWithZero.Nat
import Xkk.Gate.Session
import Xkk.Lib.Transition

/-! # The sequence of the client

A client numbers its messages modulo `2 ^ 32`, and `seq_after` compares them by
their wrapping distance.  `Inbound` runs one session and logs every sequence
that moves `client_seq`: those of accepted messages and completed reconnects,
and those of messages that only the rate limiter rejects.

The sum of the distances unwraps `client_seq`.  Which entries of the log it has
to count is the question: `virtual` takes it as a parameter.
-/

namespace Xkk.Gate

open Xkk.Lib

/-- A sequence that has become `client_seq`. -/
structure Consumed where
  seq : UInt32
  distance : Nat
  accepted : Bool          -- `false` where the rate limiter rejected the message
deriving DecidableEq, Repr

structure Inbound (B : Type) where
  session : ClientSession B
  start : UInt32           -- the `client_seq` of the login
  log : List Consumed
deriving DecidableEq, Repr

namespace ClientSession

variable {B : Type}

/-- `accept_request` refuses and changes nothing, or the sequence is taken and the
    rate limiter decides. -/
theorem acceptRequest_cases (s : ClientSession B) (sessionId : SessionId) (seq ack : UInt32) (now : Nat)
    (config : SessionConfig) :
    (∃ error, error ≠ .rateLimited ∧ s.acceptRequest sessionId seq ack now config = (.error error, s))
    ∨ (s.sessionId = sessionId ∧ s.active = true ∧ seqAfter seq s.clientSeq = true
      ∧ ∃ session, session.clientSeq = seq
        ∧ (s.acceptRequest sessionId seq ack now config = (.error .rateLimited, session)
          ∨ ∃ routes, s.acceptRequest sessionId seq ack now config = (.ok routes, session))) := by
  by_cases mismatch : s.sessionId ≠ sessionId ∨ s.active = false
  · apply Or.inl
    refine ⟨.sessionMismatch, by simp, ?_⟩
    simp only [acceptRequest, acceptSequence, if_pos mismatch]
  · obtain ⟨same, active⟩ := not_or.mp mismatch
    by_cases stale : seqAfter seq s.clientSeq = false
    · apply Or.inl
      refine ⟨.invalidSequence, by simp, ?_⟩
      simp only [acceptRequest, acceptSequence, if_neg mismatch, if_pos stale]
    · apply Or.inr
      refine ⟨not_not.mp same, by simpa using active, by simpa using stale, ?_⟩
      simp only [acceptRequest, acceptSequence, if_neg mismatch, if_neg stale]
      generalize taken : (({ s with clientSeq := seq } : ClientSession B).pruneOutbox now
        config.resumeTtl).acknowledgeOutbox ack = session
      have moved : session.clientSeq = seq := by
        rw [← taken]
        rfl
      obtain ⟨times, rate⟩ := session.acceptRate_snd now config
      cases limited : session.acceptRate now config with
      | mk passes limitedSession =>
        rw [limited] at rate
        refine ⟨limitedSession, ?_, ?_⟩
        · rw [show limitedSession = _ from rate]
          exact moved
        · cases passes with
          | false => exact .inl rfl
          | true => exact .inr ⟨_, rfl⟩

end ClientSession

namespace Inbound

variable {B : Type}

def new (conn : Connection) (routes : Routes) (clientSeq : UInt32) : Inbound B :=
  ⟨.new conn routes clientSeq, clientSeq, []⟩

/-- `session` is what the code leaves, and `seq` has moved `client_seq` there. -/
def consume (s : Inbound B) (seq : UInt32) (accepted : Bool) (session : ClientSession B) : Inbound B :=
  { s with session := session, log := s.log ++ [⟨seq, (seq - s.session.clientSeq).toNat, accepted⟩] }

inductive Op where
  | request (sessionId : SessionId) (seq ack : UInt32) (now : Nat)
  | acknowledge (sessionId : SessionId) (seq ack : UInt32) (now : Nat)
  | authorize (previous : SessionId) (seq ack : UInt32) (now : Nat)
  | complete (previous : SessionId) (conn : Connection) (seq ack : UInt32) (now : Nat)
  | disconnect (sessionId : SessionId) (now : Nat)
deriving DecidableEq, Repr

def step (config : SessionConfig) (s : Inbound B) : Op → Inbound B
  | .request sessionId seq ack now =>
    match s.session.acceptRequest sessionId seq ack now config with
    | (.ok _, session) => s.consume seq true session
    | (.error .rateLimited, session) => s.consume seq false session
    | (.error _, session) => { s with session := session }
  | .acknowledge sessionId seq ack now =>
    match s.session.acceptSequence sessionId seq ack now config.resumeTtl with
    | (.ok _, session) => s.consume seq true session
    | (.error _, session) => { s with session := session }
  | .authorize previous seq ack now =>
    { s with session := (s.session.authorizeReconnect previous seq ack now config).2 }
  | .complete previous conn seq ack now =>
    match s.session.completeReconnect previous conn seq ack now config with
    | (.ok _, session) => s.consume seq true session
    | (.error _, session) => { s with session := session }
  | .disconnect sessionId now => { s with session := (s.session.disconnect sessionId now).2 }

/-- The message is accepted, or the reconnect completed. -/
def accepts (config : SessionConfig) (s : Inbound B) : Op → Bool
  | .request sessionId seq ack now => (s.session.acceptRequest sessionId seq ack now config).1.isOk
  | .acknowledge sessionId seq ack now =>
    (s.session.acceptSequence sessionId seq ack now config.resumeTtl).1.isOk
  | .complete previous conn seq ack now => (s.session.completeReconnect previous conn seq ack now config).1.isOk
  | .authorize .. | .disconnect .. => false

def Op.seq : Op → Option UInt32
  | .request _ seq _ _ | .acknowledge _ seq _ _ | .complete _ _ seq _ _ => some seq
  | .authorize .. | .disconnect .. => none

/-- The session that a message names. -/
def Op.sessionId : Op → Option SessionId
  | .request sessionId _ _ _ | .acknowledge sessionId _ _ _ => some sessionId
  | .complete .. | .authorize .. | .disconnect .. => none

def system (config : ValidSessionConfig) : System (Inbound B) Op :=
  .ofFun (fun s => ∃ conn routes clientSeq, s = .new conn routes clientSeq)
    fun s op => some (s.step config.toSessionConfig op)

/-- The sequence of the login and the distances of the entries that count. -/
def virtual (counts : Consumed → Bool) (start : UInt32) (log : List Consumed) : Nat :=
  start.toNat + ((log.filter counts).map (·.distance)).sum

/-- Messages are accepted at most once and in order. -/
structure InOrder (counts : Consumed → Bool) (config : SessionConfig) (s : Inbound B) : Prop where
  increases : ∀ op, s.accepts config op = true →
    virtual counts s.start s.log < virtual counts s.start (s.step config op).log
  -- a message that is rejected for its rate uses up its sequence
  consumes : ∀ sessionId seq ack now,
    (s.session.acceptRequest sessionId seq ack now config).1 = .error .rateLimited →
    s.session.clientSeq ≠ seq ∧ (s.step config (.request sessionId seq ack now)).session.clientSeq = seq
  current : ∀ op, s.accepts config op = true → ∀ sessionId ∈ op.sessionId,
    s.session.sessionId = sessionId ∧ s.session.active = true
  once : ∀ before e after, s.log = before ++ e :: after → e.accepted = true →
    virtual counts s.start s.log ≤ virtual counts s.start (before ++ [e]) + 2 ^ 31 →
    ∀ op : Op, op.seq = some e.seq → s.accepts config op = false

/-! ## What a step can do -/

/-- The operation leaves `client_seq` alone, or its sequence becomes `client_seq`. -/
theorem step_cases (config : SessionConfig) (s : Inbound B) (op : Op) :
    (s.accepts config op = false ∧ (s.step config op).start = s.start ∧ (s.step config op).log = s.log
      ∧ (s.step config op).session.clientSeq = s.session.clientSeq)
    ∨ ∃ seq session, op.seq = some seq ∧ seqAfter seq s.session.clientSeq = true ∧ session.clientSeq = seq
      ∧ s.step config op = s.consume seq (s.accepts config op) session
      ∧ ∀ sessionId ∈ op.sessionId, s.session.sessionId = sessionId ∧ s.session.active = true := by
  cases op with
  | request sessionId seq ack now =>
    rcases s.session.acceptRequest_cases sessionId seq ack now config with
      ⟨error, notRate, result⟩ | ⟨same, active, newer, session, moved, result⟩
    · apply Or.inl
      cases error with
      | rateLimited => exact absurd rfl notRate
      | sessionMismatch => simp [accepts, step, result, Except.isOk, Except.toBool]
      | invalidSequence => simp [accepts, step, result, Except.isOk, Except.toBool]
    · apply Or.inr
      refine ⟨seq, session, rfl, newer, moved, ?_, ?_⟩
      · rcases result with result | ⟨routes, result⟩
        · simp [accepts, step, result, Except.isOk, Except.toBool]
        · simp [accepts, step, result, Except.isOk, Except.toBool]
      · intro id isId
        cases isId
        exact ⟨same, active⟩
  | acknowledge sessionId seq ack now =>
    rcases s.session.acceptSequence_cases sessionId seq ack now config.resumeTtl with
      ⟨error, result⟩ | ⟨same, active, newer, result⟩
    · apply Or.inl
      simp [accepts, step, result, Except.isOk, Except.toBool]
    · apply Or.inr
      refine ⟨seq, (({ s.session with clientSeq := seq } : ClientSession B).pruneOutbox now
        config.resumeTtl).acknowledgeOutbox ack, rfl, newer, rfl, ?_, ?_⟩
      · simp [accepts, step, result, Except.isOk, Except.toBool]
      · intro id isId
        cases isId
        exact ⟨same, active⟩
  | authorize previous seq ack now =>
    apply Or.inl
    refine ⟨rfl, rfl, rfl, ?_⟩
    rcases s.session.authorizeReconnect_cases previous seq ack now config with
      ⟨_, result⟩ | ⟨_, count, times, result⟩
    · simp only [step, result]
    · simp only [step, result]
      rfl
  | complete previous conn seq ack now =>
    rcases s.session.completeReconnect_cases previous conn seq ack now config with
      ⟨_, result⟩ | ⟨_, _, result⟩ | ⟨resumable, _, result⟩
    · apply Or.inl
      simp [accepts, step, result, Except.isOk, Except.toBool]
    · apply Or.inl
      simp only [accepts, step, result]
      exact ⟨rfl, trivial, trivial, rfl⟩
    · apply Or.inr
      simp only [ClientSession.resumable, Bool.and_eq_true] at resumable
      refine ⟨seq, s.session.resumed conn seq ack now config, rfl, resumable.2, rfl, ?_, ?_⟩
      · simp [accepts, step, result, Except.isOk, Except.toBool]
      · intro id isId
        cases isId
  | disconnect sessionId now =>
    apply Or.inl
    refine ⟨rfl, rfl, rfl, ?_⟩
    rcases s.session.disconnect_snd sessionId now with result | result
    · simp only [step, result]
    · simp only [step, result]

/-! ## The log unwraps the sequence -/

/-- Every entry of the log counts. -/
def all (_ : Consumed) : Bool := true

theorem virtual_append (start : UInt32) (log : List Consumed) (e : Consumed) :
    virtual all start (log ++ [e]) = virtual all start log + e.distance := by
  simp [virtual, all, List.filter_cons, Nat.add_assoc]

structure Unwrapped (s : Inbound B) : Prop where
  clientSeq : s.session.clientSeq = UInt32.ofNat (virtual all s.start s.log)
  entries : ∀ before e after, s.log = before ++ e :: after →
    e.seq = UInt32.ofNat (virtual all s.start (before ++ [e]))

variable {s : Inbound B}

theorem distance_pos {seq previous : UInt32} (newer : seqAfter seq previous = true) :
    0 < (seq - previous).toNat :=
  ((Serial.after_iff seq previous).mp newer).1

/-- Adding the distance to the old number gives the new sequence. -/
theorem ofNat_distance {seq : UInt32} {n : Nat} :
    UInt32.ofNat (n + (seq - UInt32.ofNat n).toNat) = seq := by
  rw [UInt32.ofNat_add, UInt32.ofNat_toNat, UInt32.add_comm, UInt32.sub_add_cancel]

theorem Unwrapped.consume (unwrapped : Unwrapped s) (seq : UInt32) (accepted : Bool)
    {session : ClientSession B} (moved : session.clientSeq = seq) : Unwrapped (s.consume seq accepted session) := by
  have reached : UInt32.ofNat (virtual all s.start
      (s.log ++ [⟨seq, (seq - s.session.clientSeq).toNat, accepted⟩])) = seq := by
    rw [virtual_append, unwrapped.clientSeq]
    exact ofNat_distance
  constructor
  · exact moved.trans reached.symm
  · intro before e after split
    rcases List.eq_nil_or_concat after with rfl | ⟨front, last, rfl⟩
    · -- the entry is the new one
      obtain ⟨rfl, same⟩ := List.append_inj' split rfl
      obtain rfl := List.singleton_inj.mp same
      exact reached.symm
    · have regrouped : s.log ++ [⟨seq, (seq - s.session.clientSeq).toNat, accepted⟩] =
          (before ++ e :: front) ++ [last] := by
        simpa [Inbound.consume] using split
      exact unwrapped.entries before e front (List.append_inj' regrouped rfl).1

theorem unwrapped_step (config : SessionConfig) (unwrapped : Unwrapped s) (op : Op) :
    Unwrapped (s.step config op) := by
  rcases s.step_cases config op with ⟨_, start, log, same⟩ | ⟨seq, session, _, _, moved, taken, _⟩
  · constructor
    · rw [same, start, log]
      exact unwrapped.clientSeq
    · rw [start, log]
      exact unwrapped.entries
  · rw [taken]
    exact unwrapped.consume seq _ moved

theorem unwrapped_of_reach {config : ValidSessionConfig} (reached : (system config).Reach System.Any s) :
    Unwrapped s := by
  apply reached.inv
  · rintro _ ⟨conn, routes, clientSeq, rfl⟩
    constructor
    · simp [new, virtual, ClientSession.new]
    · intro before e after split
      cases before with
      | nil => cases split
      | cons first rest => cases split
  · intro s op t unwrapped _ taken
    obtain rfl := Option.some.inj taken
    exact unwrapped_step config.toSessionConfig unwrapped op

theorem virtual_mono (start : UInt32) (before after : List Consumed) :
    virtual all start before ≤ virtual all start (before ++ after) := by
  simp [virtual]

/-- Counted over every sequence that was consumed, also those that the rate
    limiter rejected, messages are accepted at most once and in order. -/
theorem accepted_once_in_order (config : ValidSessionConfig) {s : Inbound B}
    (reached : (system config).Reach System.Any s) : InOrder all config.toSessionConfig s where
  increases := by
    intro op accepted
    rcases s.step_cases config.toSessionConfig op with ⟨rejected, _⟩ | ⟨seq, session, _, newer, _, taken, _⟩
    · rw [rejected] at accepted
      cases accepted
    · rw [taken]
      simp only [consume]
      rw [virtual_append]
      dsimp only
      have positive := distance_pos newer
      omega
  consumes := by
    intro sessionId seq ack now limited
    rcases s.session.acceptRequest_cases sessionId seq ack now config.toSessionConfig with
      ⟨error, notRate, result⟩ | ⟨_, _, newer, session, moved, result⟩
    · rw [result] at limited
      exact absurd (Except.error.inj limited) notRate
    · have positive := distance_pos newer
      constructor
      · rintro same
        rw [same] at positive
        simp at positive
      · rcases result with result | ⟨routes, result⟩
        · simp only [step, result]
          exact moved
        · rw [result] at limited
          cases limited
  current := by
    intro op accepted
    rcases s.step_cases config.toSessionConfig op with ⟨rejected, _⟩ | ⟨_, _, _, _, _, _, named⟩
    · rw [rejected] at accepted
      cases accepted
    · exact named
  once := by
    intro before e after split _ near op same
    have unwrapped := unwrapped_of_reach reached
    rcases s.step_cases config.toSessionConfig op with ⟨rejected, _⟩ | ⟨seq, _, isSeq, newer, _⟩
    · exact rejected
    · exfalso
      obtain rfl := Option.some.inj (isSeq.symm.trans same)
      have le : virtual all s.start (before ++ [e]) ≤ virtual all s.start s.log := by
        have mono := virtual_mono s.start (before ++ [e]) after
        rw [split]
        simpa using mono
      -- both numbers are unwrapped; less than half the numbers apart, the older one is not after
      rw [unwrapped.clientSeq, unwrapped.entries before e after split, seqAfter,
        Serial.after_ofNat_of_le le near] at newer
      cases newer

/-- Two requests, and a reconnect from connection 7 to connection 8. -/
def resumedOnce : List Op :=
  [.request 7 1 0 0, .request 7 2 0 0, .disconnect 7 1, .authorize 7 3 0 2, .complete 7 ⟨8⟩ 3 0 2]

theorem resumedOnce_in_order :
    ∃ s : Inbound Unit, s.log.length = 3 ∧ s.session.sessionId = 8
      ∧ InOrder all SessionConfig.HARD_LIMITS s := by
  have run : ∃ s : Inbound Unit, System.follow System.Any (fun s op => some (s.step SessionConfig.HARD_LIMITS op))
      (.new ⟨7⟩ ⟨1, 2⟩ 0) resumedOnce = some s ∧ s.log.length = 3 ∧ s.session.sessionId = 8 := by
    decide +kernel
  obtain ⟨s, followed, logged, current⟩ := run
  have reached : (system .hardLimits).Reach System.Any s :=
    System.reach_of_follow ⟨_, _, _, rfl⟩ followed
  exact ⟨s, logged, current, accepted_once_in_order .hardLimits reached⟩

/-- Eight requests use up the burst; two more, half the numbers apart, are
    rejected for their rate and carry `client_seq` round to 6. -/
def roundByRejection : List Op :=
  ((List.range 8).map fun n => .request 7 (UInt32.ofNat (n + 1)) 0 0)
    ++ [.request 7 (8 + 2147483647) 0 0, .request 7 6 0 0]

/-- Where only accepted messages count, sequence 7 is accepted a second time
    after the virtual sequence has advanced by one. -/
theorem seven_accepted_again :
    ¬ ∀ s : Inbound Unit, (system .hardLimits).Reach System.Any s →
      InOrder (·.accepted) SessionConfig.HARD_LIMITS s := by
  intro inOrder
  have run : ∃ s : Inbound Unit, System.follow System.Any (fun s op => some (s.step SessionConfig.HARD_LIMITS op))
      (.new ⟨7⟩ ⟨1, 2⟩ 0) roundByRejection = some s
      ∧ s.log = s.log.take 6 ++ ⟨7, 1, true⟩ :: s.log.drop 7
      ∧ virtual (·.accepted) s.start s.log ≤ virtual (·.accepted) s.start (s.log.take 6 ++ [⟨7, 1, true⟩]) + 2 ^ 31
      ∧ s.accepts SessionConfig.HARD_LIMITS (.request 7 7 0 5000000000) = true := by
    decide +kernel
  obtain ⟨s, followed, split, near, accepted⟩ := run
  have reached : (system .hardLimits).Reach System.Any s :=
    System.reach_of_follow ⟨_, _, _, rfl⟩ followed
  have rejected := (inOrder s reached).once _ _ _ split rfl near (.request 7 7 0 5000000000) rfl
  rw [accepted] at rejected
  cases rejected

end Inbound

end Xkk.Gate
