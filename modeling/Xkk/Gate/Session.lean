import Xkk.Lib.Serial

/-! # The client stream of one player

`ClientSession` is the state that a Gate retains for one logged-in player: the
connection it is bound to, the two sequence counters, the outbox of messages
that were not acknowledged yet, and the two limiters.  Times are nanoseconds on
one monotonic clock, so `duration_since` is truncated subtraction.

What the Gate takes from its wire library is a parameter (`Wire`): the encoder,
which may refuse a message, and the end of the reserved message ids.
-/

namespace Xkk.Gate

open Xkk.Lib

/-! ## Messages -/

inductive MsgId where
  | playerInfoReq | playerInfoRsp | useItemReq | useItemRsp
  | mailListReq | mailListRsp | mailReadReq | mailReadRsp
  | mailDeleteReq | mailDeleteRsp | mailClaimReq | mailClaimRsp | mailInfoNtf
  | addItemsReq | addItemsRsp | removeItemsReq | removeItemsRsp | checkItemsReq | checkItemsRsp
  | sendMailReq | sendMailRsp | mailPushNtf
  | authLoginReq | authLoginRsp | authUseRoleReq | authUseRoleRsp
  | gamerInfoReq | gamerInfoRsp
  | ackNtf | pingReq | pingRsp | loginReq | loginRsp | reconnectReq | reconnectRsp
  | logoutReq | logoutRsp | kickNtf
  | logicLoginReq | logicLoginRsp | logicDisconnectNtf | kickSessionReq | kickSessionRsp
deriving DecidableEq, Repr

namespace MsgId

def asU16 : MsgId → UInt16
  | playerInfoReq => 100 | playerInfoRsp => 101 | useItemReq => 102 | useItemRsp => 103
  | mailListReq => 110 | mailListRsp => 111 | mailReadReq => 112 | mailReadRsp => 113
  | mailDeleteReq => 114 | mailDeleteRsp => 115 | mailClaimReq => 116 | mailClaimRsp => 117
  | mailInfoNtf => 118
  | addItemsReq => 1000 | addItemsRsp => 1001 | removeItemsReq => 1002 | removeItemsRsp => 1003
  | checkItemsReq => 1004 | checkItemsRsp => 1005
  | sendMailReq => 1010 | sendMailRsp => 1011 | mailPushNtf => 1012
  | authLoginReq => 2000 | authLoginRsp => 2001 | authUseRoleReq => 2002 | authUseRoleRsp => 2003
  | gamerInfoReq => 2100 | gamerInfoRsp => 2101
  | ackNtf => 3000 | pingReq => 3001 | pingRsp => 3002 | loginReq => 3003 | loginRsp => 3004
  | reconnectReq => 3005 | reconnectRsp => 3006 | logoutReq => 3007 | logoutRsp => 3008
  | kickNtf => 3009
  | logicLoginReq => 3010 | logicLoginRsp => 3011 | logicDisconnectNtf => 3012
  | kickSessionReq => 3013 | kickSessionRsp => 3014

end MsgId

structure CsHead where
  msgid : UInt16
  seq : UInt32
  ack : UInt32
deriving DecidableEq, Repr

/-- The parts of the wire library: `encodeMessage` is `none` where it reports an
    error. -/
structure Wire (M B : Type) where
  systemMsgIdEnd : UInt16
  encodeMessage : CsHead → M → Option B

/-- `is_outbox_message`; the exceptions are matched by their ids. -/
def isOutboxMessage (systemMsgIdEnd msgid : UInt16) : Bool :=
  if 1 ≤ msgid ∧ msgid < systemMsgIdEnd then false
  else msgid ∉ [MsgId.pingRsp, .loginRsp, .reconnectRsp, .logoutRsp, .kickNtf].map MsgId.asU16

/-! ## Configuration, connections and errors -/

structure SessionConfig where
  outboxMessages : Nat
  resumeTtl : Nat
  reconnectTotal : Nat
  reconnectWindow : Nat
  reconnectWindowCount : Nat
  requestWindow : Nat
  requestWindowCount : Nat
  burstWindow : Nat
  burstCount : Nat
deriving DecidableEq, Repr

def SessionConfig.HARD_LIMITS : SessionConfig where
  outboxMessages := 256
  resumeTtl := 60 * 1000000000
  reconnectTotal := 10
  reconnectWindow := 60 * 1000000000
  reconnectWindowCount := 5
  requestWindow := 5 * 1000000000
  requestWindowCount := 15
  burstWindow := 1000000000
  burstCount := 8

def SessionConfig.validate (config : SessionConfig) : Bool :=
  config.outboxMessages > 0 && config.resumeTtl > 0 && config.reconnectTotal > 0
    && config.reconnectWindowCount > 0 && config.reconnectWindowCount ≤ config.reconnectTotal
    && config.reconnectWindow > 0 && (config.requestWindowCount > 0 && config.burstCount > 0)
    && config.burstCount ≤ config.requestWindowCount
    && (config.requestWindow > 0 && config.burstWindow > 0)

/-- A configuration that `ClientSessions::new` accepts. -/
structure ValidSessionConfig extends SessionConfig where
  valid : toSessionConfig.validate = true

def ValidSessionConfig.hardLimits : ValidSessionConfig := ⟨SessionConfig.HARD_LIMITS, by decide⟩

abbrev SessionId := Int

structure Connection where
  sessionId : SessionId
deriving DecidableEq, Repr

structure Routes where
  logicId : Int
  publicId : Int
deriving DecidableEq, Repr

inductive RequestError where
  | sessionMismatch
  | invalidSequence
  | rateLimited
deriving DecidableEq, Repr

inductive ResumeError where
  | missing
  | expired
  | sessionMismatch
  | outboxGap
  | rateLimited
deriving DecidableEq, Repr

def seqAfter (value previous : UInt32) : Bool := Serial.after value previous

def seqAtOrAfter (value previous : UInt32) : Bool := Serial.atOrAfter value previous

structure OutboxMessage (B : Type) where
  seq : UInt32
  sentAt : Nat
  payload : B
deriving DecidableEq, Repr

structure ReconnectResult (B : Type) where
  replay : List B
  becameActive : Bool
deriving DecidableEq, Repr

/-! ## The session -/

structure ClientSession (B : Type) where
  sessionId : SessionId
  conn : Option Connection
  routes : Routes
  serverSeq : UInt32
  clientSeq : UInt32
  outbox : List (OutboxMessage B)
  droppedThrough : Option UInt32
  disconnectedAt : Option Nat
  reconnectCount : Nat
  reconnectTimes : List Nat
  requestTimes : List Nat
deriving DecidableEq, Repr

namespace ClientSession

variable {M B : Type}

def new (conn : Connection) (routes : Routes) (clientSeq : UInt32) : ClientSession B where
  sessionId := conn.sessionId
  conn := some conn
  routes := routes
  serverSeq := 0
  clientSeq := clientSeq
  outbox := []
  droppedThrough := none
  disconnectedAt := none
  reconnectCount := 0
  reconnectTimes := []
  requestTimes := []

def active (s : ClientSession B) : Bool := s.conn.isSome

/-- The loop of `prune_outbox`: it pops from the front and remembers the last
    sequence it dropped. -/
def pruneLoop (now ttl : Nat) :
    List (OutboxMessage B) → Option UInt32 → List (OutboxMessage B) × Option UInt32
  | [], dropped => ([], dropped)
  | message :: rest, dropped =>
    if now - message.sentAt > ttl then pruneLoop now ttl rest (some message.seq)
    else (message :: rest, dropped)

def pruneOutbox (s : ClientSession B) (now ttl : Nat) : ClientSession B :=
  let (outbox, dropped) := pruneLoop now ttl s.outbox s.droppedThrough
  { s with outbox := outbox, droppedThrough := dropped }

def acknowledgeOutbox (s : ClientSession B) (ack : UInt32) : ClientSession B :=
  { s with outbox := s.outbox.dropWhile fun message => !seqAfter message.seq ack }

/-- The outbox is full: its oldest message makes room. -/
def evictOldest (s : ClientSession B) : ClientSession B :=
  match s.outbox with
  | [] => s
  | oldest :: rest => { s with outbox := rest, droppedThrough := some oldest.seq }

def makeRoom (s : ClientSession B) (now : Nat) (config : SessionConfig) : ClientSession B :=
  let s := s.pruneOutbox now config.resumeTtl
  if s.outbox.length = config.outboxMessages then s.evictOldest else s

def encode (wire : Wire M B) (s : ClientSession B) (msgid : MsgId) (message : M) (now : Nat)
    (config : SessionConfig) : Option B × ClientSession B :=
  let s := { s with serverSeq := s.serverSeq + 1 }
  match wire.encodeMessage ⟨msgid.asU16, s.serverSeq, s.clientSeq⟩ message with
  | none => (none, s)
  | some payload =>
    if isOutboxMessage wire.systemMsgIdEnd msgid.asU16 then
      let s := s.makeRoom now config
      (some payload, { s with outbox := s.outbox ++ [⟨s.serverSeq, now, payload⟩] })
    else (some payload, s)

def acceptSequence (s : ClientSession B) (sessionId : SessionId) (seq ack : UInt32)
    (now resumeTtl : Nat) : Except RequestError Unit × ClientSession B :=
  if s.sessionId ≠ sessionId ∨ s.active = false then (.error .sessionMismatch, s)
  else if seqAfter seq s.clientSeq = false then (.error .invalidSequence, s)
  else
    (.ok (), (({ s with clientSeq := seq }).pruneOutbox now resumeTtl).acknowledgeOutbox ack)

def acceptRate (s : ClientSession B) (now : Nat) (config : SessionConfig) :
    Bool × ClientSession B :=
  let times := s.requestTimes.dropWhile fun since => now - since ≥ config.requestWindow
  if times.length ≥ config.requestWindowCount then (false, { s with requestTimes := times })
  else if (times.reverse.takeWhile fun since => now - since < config.burstWindow).length
      ≥ config.burstCount then
    (false, { s with requestTimes := times })
  else (true, { s with requestTimes := times ++ [now] })

def acceptRequest (s : ClientSession B) (sessionId : SessionId) (seq ack : UInt32) (now : Nat)
    (config : SessionConfig) : Except RequestError Routes × ClientSession B :=
  match s.acceptSequence sessionId seq ack now config.resumeTtl with
  | (.error error, s) => (.error error, s)
  | (.ok _, s) =>
    match s.acceptRate now config with
    | (false, s) => (.error .rateLimited, s)
    | (true, s) => (.ok s.routes, s)

/-- The check of the acknowledgement against `dropped_through`. -/
def outboxGap (s : ClientSession B) (ack : UInt32) : Bool :=
  s.droppedThrough.any fun dropped => !seqAtOrAfter ack dropped

def authorizeReconnect (s : ClientSession B) (previousSession : SessionId)
    (clientSeq ack : UInt32) (now : Nat) (config : SessionConfig) :
    Except ResumeError Routes × ClientSession B :=
  if s.sessionId ≠ previousSession then (.error .sessionMismatch, s)
  else if seqAfter clientSeq s.clientSeq = false then (.error .sessionMismatch, s)
  else if s.disconnectedAt.any fun since => now - since > config.resumeTtl then (.error .expired, s)
  else
    let s := s.pruneOutbox now config.resumeTtl
    if s.outboxGap ack then (.error .outboxGap, s)
    else if s.reconnectCount ≥ config.reconnectTotal then (.error .rateLimited, s)
    else
      let times := s.reconnectTimes.dropWhile fun since => now - since ≥ config.reconnectWindow
      if times.length ≥ config.reconnectWindowCount then
        (.error .rateLimited, { s with reconnectTimes := times })
      else
        (.ok s.routes, { s with reconnectCount := s.reconnectCount + 1
                                reconnectTimes := times ++ [now] })

/-- The checks that `authorize_reconnect` makes before it prunes. -/
def authorizes (s : ClientSession B) (previousSession : SessionId) (clientSeq : UInt32)
    (now : Nat) (config : SessionConfig) : Bool :=
  s.sessionId = previousSession && seqAfter clientSeq s.clientSeq
    && !(s.disconnectedAt.any fun since => now - since > config.resumeTtl)

def completeReconnect (s : ClientSession B) (previousSession : SessionId) (conn : Connection)
    (clientSeq ack : UInt32) (now : Nat) (config : SessionConfig) :
    Except ResumeError (ReconnectResult B) × ClientSession B :=
  if s.sessionId ≠ previousSession then (.error .sessionMismatch, s)
  else if seqAfter clientSeq s.clientSeq = false then (.error .sessionMismatch, s)
  else
    let s := s.pruneOutbox now config.resumeTtl
    if s.outboxGap ack then (.error .outboxGap, s)
    else
      let s := s.acknowledgeOutbox ack
      let becameActive := !s.active
      let s := { s with sessionId := conn.sessionId, conn := some conn
                        clientSeq := clientSeq, disconnectedAt := none }
      let replay := (s.outbox.filter fun message => seqAfter message.seq ack).map (·.payload)
      (.ok ⟨replay, becameActive⟩, s)

/-- The section of `ClientSessions::disconnect` under the session lock. -/
def disconnect (s : ClientSession B) (sessionId : SessionId) (now : Nat) :
    Option Routes × ClientSession B :=
  if s.sessionId ≠ sessionId ∨ s.active = false then (none, s)
  else (some s.routes, { s with conn := none, disconnectedAt := some now })

/-! ## What pruning does -/

/-- The loop drops the expired prefix and remembers its last sequence. -/
theorem pruneLoop_eq (now ttl : Nat) (outbox : List (OutboxMessage B)) (dropped : Option UInt32) :
    pruneLoop now ttl outbox dropped =
      (outbox.dropWhile fun message => now - message.sentAt > ttl,
       match (outbox.takeWhile fun message => now - message.sentAt > ttl).getLast? with
       | none => dropped
       | some last => some last.seq) := by
  induction outbox generalizing dropped with
  | nil => simp [pruneLoop]
  | cons message rest ih =>
    by_cases expired : now - message.sentAt > ttl
    · simp only [pruneLoop, expired, if_true, ih, decide_true, List.dropWhile_cons_of_pos,
        List.takeWhile_cons_of_pos]
      cases tail : rest.takeWhile fun message => decide (now - message.sentAt > ttl) with
      | nil => simp
      | cons second others => simp [List.getLast?_cons]
    · simp [pruneLoop, expired]

/-! ## What each operation can do -/

theorem acceptSequence_cases (s : ClientSession B) (sessionId : SessionId) (seq ack : UInt32)
    (now resumeTtl : Nat) :
    (∃ error, s.acceptSequence sessionId seq ack now resumeTtl = (.error error, s))
    ∨ (s.sessionId = sessionId ∧ s.active = true ∧ seqAfter seq s.clientSeq = true
      ∧ s.acceptSequence sessionId seq ack now resumeTtl =
        (.ok (), (({ s with clientSeq := seq }).pruneOutbox now resumeTtl).acknowledgeOutbox ack)) := by
  unfold acceptSequence
  by_cases mismatch : s.sessionId ≠ sessionId ∨ s.active = false
  · exact .inl ⟨_, if_pos mismatch⟩
  · rw [if_neg mismatch]
    obtain ⟨same, active⟩ := not_or.mp mismatch
    by_cases stale : seqAfter seq s.clientSeq = false
    · exact .inl ⟨_, if_pos stale⟩
    · exact .inr ⟨not_not.mp same, by simpa using active, by simpa using stale, if_neg stale⟩

/-- The rate limiter touches its own window only. -/
theorem acceptRate_snd (s : ClientSession B) (now : Nat) (config : SessionConfig) :
    ∃ times, (s.acceptRate now config).2 = { s with requestTimes := times } := by
  simp only [acceptRate]
  split
  · exact ⟨_, rfl⟩
  · split <;> exact ⟨_, rfl⟩

/-- `accept_request` is `accept_sequence` up to the rate limiter's window. -/
theorem acceptRequest_snd (s : ClientSession B) (sessionId : SessionId) (seq ack : UInt32)
    (now : Nat) (config : SessionConfig) :
    ∃ times, (s.acceptRequest sessionId seq ack now config).2 =
      { (s.acceptSequence sessionId seq ack now config.resumeTtl).2 with requestTimes := times } := by
  unfold acceptRequest
  rcases s.acceptSequence sessionId seq ack now config.resumeTtl with ⟨_ | _, t⟩
  · exact ⟨t.requestTimes, rfl⟩
  · obtain ⟨times, rate⟩ := t.acceptRate_snd now config
    refine ⟨times, Eq.trans ?_ rate⟩
    dsimp only
    rcases t.acceptRate now config with ⟨_ | _, _⟩ <;> rfl

theorem disconnect_snd (s : ClientSession B) (sessionId : SessionId) (now : Nat) :
    (s.disconnect sessionId now).2 = s
    ∨ (s.disconnect sessionId now).2 = { s with conn := none, disconnectedAt := some now } := by
  unfold disconnect
  split
  · exact .inl rfl
  · exact .inr rfl

/-- `authorize_reconnect` prunes once its session, sequence and expiry checks
    pass, and touches no more of the stream. -/
theorem authorizeReconnect_cases (s : ClientSession B) (previousSession : SessionId)
    (clientSeq ack : UInt32) (now : Nat) (config : SessionConfig) :
    (s.authorizes previousSession clientSeq now config = false
      ∧ (s.authorizeReconnect previousSession clientSeq ack now config).2 = s)
    ∨ (s.authorizes previousSession clientSeq now config = true
      ∧ ∃ count times, (s.authorizeReconnect previousSession clientSeq ack now config).2 =
        { s.pruneOutbox now config.resumeTtl with reconnectCount := count, reconnectTimes := times }) := by
  simp only [authorizeReconnect, authorizes]
  by_cases mismatch : s.sessionId = previousSession
  · by_cases newer : seqAfter clientSeq s.clientSeq = true
    · by_cases expired : (s.disconnectedAt.any fun since => now - since > config.resumeTtl) = true
      · refine .inl ⟨by simp [expired], ?_⟩
        rw [if_neg (not_not.mpr mismatch), if_neg (by simp [newer]), if_pos expired]
      · refine .inr ⟨by simp [mismatch, newer, expired], ?_⟩
        rw [if_neg (not_not.mpr mismatch), if_neg (by simp [newer]), if_neg expired]
        split
        · exact ⟨_, _, rfl⟩
        · split
          · exact ⟨_, _, rfl⟩
          · split <;> exact ⟨_, _, rfl⟩
    · refine .inl ⟨by simp [newer], ?_⟩
      rw [if_neg (not_not.mpr mismatch), if_pos (by simpa using newer)]
  · refine .inl ⟨by simp [mismatch], ?_⟩
    rw [if_pos mismatch]

/-- The session that a successful `complete_reconnect` leaves. -/
def resumed (s : ClientSession B) (conn : Connection) (clientSeq ack : UInt32) (now : Nat)
    (config : SessionConfig) : ClientSession B :=
  { (s.pruneOutbox now config.resumeTtl).acknowledgeOutbox ack with
    sessionId := conn.sessionId
    conn := some conn
    clientSeq := clientSeq
    disconnectedAt := none }

/-- The two checks that `complete_reconnect` makes before it prunes. -/
def resumable (s : ClientSession B) (previousSession : SessionId) (clientSeq : UInt32) : Bool :=
  s.sessionId = previousSession && seqAfter clientSeq s.clientSeq

theorem completeReconnect_cases (s : ClientSession B) (previousSession : SessionId)
    (conn : Connection) (clientSeq ack : UInt32) (now : Nat) (config : SessionConfig) :
    (s.resumable previousSession clientSeq = false
      ∧ s.completeReconnect previousSession conn clientSeq ack now config =
        (.error .sessionMismatch, s))
    ∨ (s.resumable previousSession clientSeq = true
      ∧ (s.pruneOutbox now config.resumeTtl).outboxGap ack = true
      ∧ s.completeReconnect previousSession conn clientSeq ack now config =
        (.error .outboxGap, s.pruneOutbox now config.resumeTtl))
    ∨ (s.resumable previousSession clientSeq = true
      ∧ (s.pruneOutbox now config.resumeTtl).outboxGap ack = false
      ∧ s.completeReconnect previousSession conn clientSeq ack now config =
        (.ok ⟨((s.resumed conn clientSeq ack now config).outbox.filter
            fun message => seqAfter message.seq ack).map (·.payload), !s.active⟩,
          s.resumed conn clientSeq ack now config)) := by
  simp only [completeReconnect, resumable]
  by_cases mismatch : s.sessionId = previousSession
  · by_cases newer : seqAfter clientSeq s.clientSeq = true
    · rw [if_neg (not_not.mpr mismatch), if_neg (by simp [newer])]
      by_cases gap : (s.pruneOutbox now config.resumeTtl).outboxGap ack = true
      · exact .inr (.inl ⟨by simp [mismatch, newer], gap, if_pos gap⟩)
      · exact .inr (.inr ⟨by simp [mismatch, newer], by simpa using gap, if_neg gap⟩)
    · refine .inl ⟨by simp [newer], ?_⟩
      rw [if_neg (not_not.mpr mismatch), if_pos (by simpa using newer)]
  · exact .inl ⟨by simp [mismatch], if_pos mismatch⟩

end ClientSession

end Xkk.Gate
