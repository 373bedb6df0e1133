import Xkk.Gate.Succession

/-! # Forwarded requests and their responses

`forward` accepts a request under the session lock, waits for the service that
it is routed to, and sends the response through the session that the map holds
by then.  In between the connection may drop, which aborts the worker, and the
session may be unbound, bound to another connection, or replaced.

`responses` keeps what was encoded for each request.  `Undisturbed` is what one
request needs of the steps around it.
-/

namespace Xkk.Gate

open Xkk.Lib

/-- The requests that `handle_packet` forwards. -/
inductive ForwardKind where
  | playerInfo | useItem | mailList | mailRead | mailDelete | mailClaim
deriving DecidableEq, Repr

def ForwardKind.responseMsgid : ForwardKind → MsgId
  | .playerInfo => .playerInfoRsp
  | .useItem => .useItemRsp
  | .mailList => .mailListRsp
  | .mailRead => .mailReadRsp
  | .mailDelete => .mailDeleteRsp
  | .mailClaim => .mailClaimRsp

/-- Where a request stands.  `accepted` is the session that accepted it; there is
    none where only the rate limiter let it get so far. -/
inductive ForwardPhase (M : Type) where
  | accepting (arc : Nat) (seq ack : UInt32)
  | calling (arc : Nat)                                      -- the RPC is awaited
  | replying (accepted : Option Nat) (response : M)
  | sending (accepted : Option Nat) (arc : Nat) (response : M)
  | ended (accepted : Option Nat)
deriving DecidableEq, Repr

structure Forward (M : Type) where
  conn : Connection
  gid : Gid
  kind : ForwardKind
  phase : ForwardPhase M
deriving DecidableEq, Repr

/-- The worker of the connection is aborted; it can be stopped at an await only. -/
def Forward.abort {M : Type} (conn : Connection) (request : Forward M) : Forward M :=
  if request.conn = conn then
    match request.phase with
    | .calling arc => { request with phase := .ended (some arc) }
    | _ => request
  else request

/-- A response that was encoded into the stream under `arc`. -/
structure Response (B : Type) where
  request : Nat
  arc : Nat
  seq : UInt32
  payload : B
deriving DecidableEq, Repr

structure Forwarding (M B : Type) where
  table : Succession B
  requests : List (Forward M)
  responses : List (Response B)

namespace Forwarding

variable {M B : Type}

def new : Forwarding M B := ⟨.new, [], []⟩

inductive Label (M : Type) where
  | table (label : Succession.Label M)
  | forward (conn : Connection) (gid : Gid) (kind : ForwardKind) (seq ack : UInt32)
  | advance (i : Nat) (response : M) (now : Nat)     -- `response` is the answer of the service, or an error
  | onDisconnected (conn : Connection)

def set (s : Forwarding M B) (i : Nat) (request : Forward M) (phase : ForwardPhase M) : Forwarding M B :=
  { s with requests := s.requests.set i { request with phase := phase } }

def store (s : Forwarding M B) (arc : Nat) (session : ClientSession B) : Forwarding M B :=
  { s with table := { s.table with sessions := s.table.sessions.store arc session } }

/-- `ClientSessions::send` under the session lock. -/
def send (wire : Wire M B) (config : SessionConfig) (s : Forwarding M B) (i : Nat) (request : Forward M)
    (arc : Nat) (session : ClientSession B) (response : M) (now : Nat) : Forwarding M B :=
  if session.sessionId ≠ request.conn.sessionId ∨ session.active = false then s
  else
    match session.encode wire request.kind.responseMsgid response now config with
    | (none, session) => s.store arc session
    | (some payload, session) =>
      { s.store arc session with responses := s.responses ++ [⟨i, arc, session.serverSeq, payload⟩] }

def advance (wire : Wire M B) (config : SessionConfig) (s : Forwarding M B) (i : Nat) (request : Forward M)
    (response : M) (now : Nat) : Option (Forwarding M B) :=
  match request.phase with
  | .accepting arc seq ack =>
    s.table.sessions.arcs[arc]?.map fun session =>
      let (result, session) := session.acceptRequest request.conn.sessionId seq ack now config
      let s := s.store arc session
      match result with
      | .ok _ => s.set i request (.calling arc)
      -- a request over the rate is answered with an error, any other one closes the connection
      | .error .rateLimited => s.set i request (.replying none response)
      | .error _ => s.set i request (.ended none)
  | .calling arc => some (s.set i request (.replying (some arc) response))
  | .replying accepted response =>
    match s.table.sessions.get request.gid with
    | none => some (s.set i request (.ended accepted))
    | some arc => some (s.set i request (.sending accepted arc response))
  | .sending accepted arc response =>
    s.table.sessions.arcs[arc]?.map fun session =>
      (s.send wire config i request arc session response now).set i request (.ended accepted)
  | .ended _ => none

def step (wire : Wire M B) (config : SessionConfig) (s : Forwarding M B) : Label M → Option (Forwarding M B)
  | .table label => (s.table.step wire config label).map fun table => { s with table := table }
  | .forward conn gid kind seq ack =>
    (s.table.sessions.get gid).map fun arc =>
      { s with requests := s.requests ++ [⟨conn, gid, kind, .accepting arc seq ack⟩] }
  | .advance i response now => s.requests[i]?.bind fun request => s.advance wire config i request response now
  | .onDisconnected conn => some { s with requests := s.requests.map (Forward.abort conn) }

def system (wire : Wire M B) (config : ValidSessionConfig) : System (Forwarding M B) (Label M) :=
  .ofFun (· = .new) (step wire config.toSessionConfig)

/-! ## Answers -/

def responsesTo (s : Forwarding M B) (i : Nat) : List (Response B) := s.responses.filter (·.request = i)

/-- If the request was accepted, has ended, and its session is still retained, one
    response was encoded into the stream of that session. -/
def Answered (i : Nat) (s : Forwarding M B) : Prop :=
  ∀ request arc, s.requests[i]? = some request → request.phase = .ended (some arc) →
    s.table.sessions.get request.gid = some arc → ∃ r, s.responsesTo i = [r] ∧ r.arc = arc

/-- The response can be encoded for the connection of the request. -/
def Sendable (wire : Wire M B) (request : Forward M) (response : M) (session : ClientSession B) : Prop :=
  session.sessionId = request.conn.sessionId ∧ session.active = true
    ∧ (wire.encodeMessage ⟨request.kind.responseMsgid.asU16, session.serverSeq + 1, session.clientSeq⟩
      response).isSome = true

/-- The worker of the request is not aborted at its await, and `send` finds the
    session active under the id of the connection. -/
def Undisturbed (wire : Wire M B) (i : Nat) (s : Forwarding M B) : Label M → Prop
  | .onDisconnected conn => ∀ request ∈ s.requests[i]?, request.conn = conn → ∀ arc, request.phase ≠ .calling arc
  | .advance j _ _ => i = j → ∀ request ∈ s.requests[i]?, ∀ accepted arc response,
    request.phase = .sending accepted arc response →
      ∀ session ∈ s.table.sessions.arcs[arc]?, Sendable wire request response session
  | _ => True

instance (wire : Wire M B) (i : Nat) (s : Forwarding M B) (l : Label M) : Decidable (s.Undisturbed wire i l) :=
  match l with
  | .onDisconnected conn => match found : s.requests[i]? with
    | none => .isTrue (by simp [Undisturbed, found])
    | some request => match phase : request.phase with
      | .calling _ => decidable_of_iff (request.conn ≠ conn) (by simp [Undisturbed, found, phase])
      | .accepting .. | .replying .. | .sending .. | .ended _ => .isTrue (by simp [Undisturbed, found, phase])
  | .advance j _ _ => match found : s.requests[i]? with
    | none => .isTrue (by simp [Undisturbed, found])
    | some request => match phase : request.phase with
      | .sending _ arc response =>
        decidable_of_iff (i = j → ∀ session ∈ s.table.sessions.arcs[arc]?, session.sessionId = request.conn.sessionId
            ∧ session.active = true ∧ (wire.encodeMessage
              ⟨request.kind.responseMsgid.asU16, session.serverSeq + 1, session.clientSeq⟩ response).isSome = true)
          (by simp [Undisturbed, found, phase, Sendable])
      | .accepting .. | .replying .. | .calling _ | .ended _ => .isTrue (by simp [Undisturbed, found, phase])
  | .table _ | .forward .. => .isTrue trivial

/-- What holds of a request, whatever happens around it. -/
structure AtMostOnce (wire : Wire M B) (config : ValidSessionConfig) (i : Nat) (s : Forwarding M B) : Prop where
  atMost : (s.responsesTo i).length ≤ 1
  -- what disturbs the request ends it, and there is no response
  otherwise : ∀ l t, (system wire config).step s l t → ¬ Undisturbed wire i s l →
    (∃ request accepted, t.requests[i]? = some request ∧ request.phase = .ended accepted) ∧ t.responsesTo i = []
  -- a response that is encoded is the newest message of the outbox
  retained : ∀ l t r, (system wire config).step s l t → t.responses = s.responses ++ [r] →
    ∃ (session : ClientSession B) (now : Nat), t.table.sessions.arcs[r.arc]? = some session
      ∧ session.outbox.getLast? = some ⟨r.seq, now, r.payload⟩

end Forwarding

/-! ## What `encode` leaves in the outbox -/

theorem ClientSession.encode_outbox {M B : Type} (wire : Wire M B) (s : ClientSession B) (msgid : MsgId)
    (message : M)
    (now : Nat) (config : SessionConfig) :
    match wire.encodeMessage ⟨msgid.asU16, s.serverSeq + 1, s.clientSeq⟩ message with
    | none => (s.encode wire msgid message now config).1 = none
    | some payload => (s.encode wire msgid message now config).1 = some payload
      ∧ (isOutboxMessage wire.systemMsgIdEnd msgid.asU16 = true →
        (s.encode wire msgid message now config).2.outbox.getLast? =
          some ⟨(s.encode wire msgid message now config).2.serverSeq, now, payload⟩) := by
  cases written : wire.encodeMessage ⟨msgid.asU16, s.serverSeq + 1, s.clientSeq⟩ message with
  | none => simp [encode, written]
  | some payload =>
    cases eligible : isOutboxMessage wire.systemMsgIdEnd msgid.asU16 with
    | true => simp [encode, written, eligible]
    | false => simp [encode, written, eligible]

/-- The responses of forwarded requests are kept for a replay. -/
theorem ForwardKind.isOutboxMessage_response {systemMsgIdEnd : UInt16} (reserved : systemMsgIdEnd ≤ 101)
    (kind : ForwardKind) : isOutboxMessage systemMsgIdEnd kind.responseMsgid.asU16 = true := by
  have large : 101 ≤ kind.responseMsgid.asU16 := by cases kind <;> decide
  have listed : kind.responseMsgid.asU16 ∉
      [MsgId.pingRsp, .loginRsp, .reconnectRsp, .logoutRsp, .kickNtf].map MsgId.asU16 := by
    cases kind <;> decide
  have free : ¬ (1 ≤ kind.responseMsgid.asU16 ∧ kind.responseMsgid.asU16 < systemMsgIdEnd) := by
    rintro ⟨_, inside⟩
    exact absurd (UInt16.lt_of_lt_of_le inside reserved) (UInt16.not_lt.mpr large)
  rw [isOutboxMessage, if_neg free]
  exact decide_eq_true listed

namespace Forwarding

variable {s t : Forwarding M B} {i : Nat} {request : Forward M} {config : SessionConfig}

/-! ## What a step of a request can do -/

/-- The phases that a request can move to, and the responses that there are then. -/
inductive Moves (wire : Wire M B) (s : Forwarding M B) (i : Nat) (request : Forward M) :
    ForwardPhase M → List (Response B) → Prop
  | accepted {arc : Nat} {seq ack : UInt32} : request.phase = .accepting arc seq ack →
      arc < s.table.sessions.arcs.length → Moves wire s i request (.calling arc) s.responses
  | limited {arc : Nat} {seq ack : UInt32} (response : M) : request.phase = .accepting arc seq ack →
      Moves wire s i request (.replying none response) s.responses
  | refused {arc : Nat} {seq ack : UInt32} : request.phase = .accepting arc seq ack →
      Moves wire s i request (.ended none) s.responses
  | called {arc : Nat} (response : M) : request.phase = .calling arc →
      Moves wire s i request (.replying (some arc) response) s.responses
  | missing {accepted : Option Nat} {response : M} : request.phase = .replying accepted response →
      s.table.sessions.get request.gid = none → Moves wire s i request (.ended accepted) s.responses
  | found {accepted : Option Nat} {response : M} {arc : Nat} : request.phase = .replying accepted response →
      s.table.sessions.get request.gid = some arc →
      Moves wire s i request (.sending accepted arc response) s.responses
  | dropped {accepted : Option Nat} {arc : Nat} {response : M} {session : ClientSession B} :
      request.phase = .sending accepted arc response → s.table.sessions.arcs[arc]? = some session →
      ¬ Sendable wire request response session → Moves wire s i request (.ended accepted) s.responses
  | sent {accepted : Option Nat} {arc : Nat} {response : M} {session : ClientSession B} {r : Response B} :
      request.phase = .sending accepted arc response → s.table.sessions.arcs[arc]? = some session →
      Sendable wire request response session → r.request = i → r.arc = arc →
      Moves wire s i request (.ended accepted) (s.responses ++ [r])

/-- `send` drops the response, or encodes it and keeps it in the outbox. -/
theorem send_cases (wire : Wire M B) (config : SessionConfig) (s : Forwarding M B) (i : Nat)
    (request : Forward M) (arc : Nat)
    (session : ClientSession B) (response : M) (now : Nat) :
    (¬ Sendable wire request response session
      ∧ ((s.send wire config i request arc session response now) = s
        ∨ ∃ left, s.send wire config i request arc session response now = s.store arc left))
    ∨ (Sendable wire request response session ∧ ∃ left payload,
      s.send wire config i request arc session response now =
        { s.store arc left with responses := s.responses ++ [⟨i, arc, left.serverSeq, payload⟩] }
      ∧ (wire.systemMsgIdEnd ≤ 101 → left.outbox.getLast? = some ⟨left.serverSeq, now, payload⟩)) := by
  by_cases mismatch : session.sessionId ≠ request.conn.sessionId ∨ session.active = false
  · apply Or.inl
    constructor
    · rintro ⟨same, active, _⟩
      rcases mismatch with differ | inactive
      · exact differ same
      · rw [active] at inactive
        cases inactive
    · exact .inl (if_pos mismatch)
  · obtain ⟨same, active⟩ := not_or.mp mismatch
    have encoded := session.encode_outbox wire request.kind.responseMsgid response now config
    cases written : wire.encodeMessage
        ⟨request.kind.responseMsgid.asU16, session.serverSeq + 1, session.clientSeq⟩ response with
    | none =>
      simp only [written] at encoded
      apply Or.inl
      constructor
      · rintro ⟨_, _, isSome⟩
        rw [written] at isSome
        cases isSome
      · apply Or.inr
        refine ⟨(session.encode wire request.kind.responseMsgid response now config).2, ?_⟩
        rw [send, if_neg mismatch, show session.encode wire request.kind.responseMsgid response now config =
          (none, _) from Prod.ext encoded rfl]
    | some payload =>
      simp only [written] at encoded
      obtain ⟨answer, kept⟩ := encoded
      apply Or.inr
      refine ⟨⟨not_not.mp same, by simpa using active, by simp [written]⟩,
        (session.encode wire request.kind.responseMsgid response now config).2, payload, ?_, ?_⟩
      · rw [send, if_neg mismatch, show session.encode wire request.kind.responseMsgid response now config =
          (some payload, _) from Prod.ext answer rfl]
      · intro reserved
        exact kept (request.kind.isOutboxMessage_response reserved)

theorem advance_moves {wire : Wire M B} {response : M} {now : Nat}
    (taken : s.advance wire config i request response now = some t) :
    ∃ phase, t.requests = s.requests.set i { request with phase := phase } ∧ Moves wire s i request phase t.responses
      ∧ t.table.sessions.players = s.table.sessions.players
      ∧ t.table.sessions.arcs.length = s.table.sessions.arcs.length := by
  have stored : ∀ (arc : Nat) (session : ClientSession B),
      (s.store arc session).table.sessions.arcs.length = s.table.sessions.arcs.length := by
    intro arc session
    simp [Forwarding.store, ClientSessions.store]
  cases phase : request.phase with
  | accepting arc seq ack =>
    simp only [advance, phase, Option.map_eq_some_iff] at taken
    obtain ⟨session, found, result⟩ := taken
    split at result
    · obtain rfl := result
      exact ⟨_, rfl, .accepted phase (Pool.lt_length found), rfl, stored arc _⟩
    · obtain rfl := result
      exact ⟨_, rfl, .limited response phase, rfl, stored arc _⟩
    · obtain rfl := result
      exact ⟨_, rfl, .refused phase, rfl, stored arc _⟩
  | calling arc =>
    simp only [advance, phase] at taken
    obtain rfl := Option.some.inj taken
    exact ⟨_, rfl, .called response phase, rfl, rfl⟩
  | replying accepted answer =>
    simp only [advance, phase] at taken
    cases entry : s.table.sessions.get request.gid with
    | none =>
      simp only [entry] at taken
      obtain rfl := Option.some.inj taken
      exact ⟨_, rfl, .missing phase entry, rfl, rfl⟩
    | some arc =>
      simp only [entry] at taken
      obtain rfl := Option.some.inj taken
      exact ⟨_, rfl, .found phase entry, rfl, rfl⟩
  | sending accepted arc answer =>
    simp only [advance, phase, Option.map_eq_some_iff] at taken
    obtain ⟨session, found, rfl⟩ := taken
    rcases s.send_cases wire config i request arc session answer now with
      ⟨unsendable, same | ⟨left, same⟩⟩ | ⟨sendable, left, payload, same, _⟩
    · simp only [same]
      exact ⟨_, rfl, .dropped phase found unsendable, rfl, rfl⟩
    · simp only [same]
      exact ⟨_, rfl, .dropped phase found unsendable, rfl, stored arc left⟩
    · simp only [same]
      exact ⟨_, rfl, .sent phase found sendable rfl rfl, rfl, stored arc left⟩
  | ended accepted => simp [advance, phase] at taken

/-! ## The ledger of the responses -/

/-- The session that accepted the request is known, and if it is still retained,
    the one that the response goes to is the same. -/
def Held (sessions : ClientSessions B) (gid : Gid) : ForwardPhase M → Prop
  | .calling arc | .replying (some arc) _ | .ended (some arc) => arc < sessions.arcs.length
  | .sending (some accepted) arc _ =>
    accepted < sessions.arcs.length ∧ (sessions.get gid = some accepted → arc = accepted)
  | .accepting .. | .replying none _ | .sending none _ _ | .ended none => True

theorem Held.older {sessions later : ClientSessions B} (older : sessions.Older later) {gid : Gid}
    {phase : ForwardPhase M}
    (held : Held sessions gid phase) : Held later gid phase := by
  have inside : ∀ arc, arc < sessions.arcs.length → arc < later.arcs.length := by
    intro arc below
    have grown := older.1
    omega
  cases phase with
  | accepting arc seq ack => trivial
  | calling arc => exact inside arc held
  | replying accepted response =>
    cases accepted with
    | none => trivial
    | some arc => exact inside arc held
  | sending accepted arc response =>
    cases accepted with
    | none => trivial
    -- an entry that is still there has not been put back in the meantime
    | some accepted => exact ⟨inside accepted held.1, fun entry => held.2 (older.2 gid accepted entry held.1)⟩
  | ended accepted =>
    cases accepted with
    | none => trivial
    | some arc => exact inside arc held

structure Ledger (s : Forwarding M B) : Prop where
  known : ∀ r ∈ s.responses, r.request < s.requests.length
  -- a request gets its response when it ends
  pending : ∀ i request, s.requests[i]? = some request → (∀ accepted, request.phase ≠ .ended accepted) →
    s.responsesTo i = []
  atMost : ∀ i, (s.responsesTo i).length ≤ 1
  held : ∀ (i : Nat) (request : Forward M), s.requests[i]? = some request →
    Held s.table.sessions request.gid request.phase

theorem Ledger.fresh (ledger : Ledger s) (outside : s.requests.length ≤ i) : s.responsesTo i = [] := by
  apply List.filter_eq_nil_iff.mpr
  intro r isResponse same
  have inside := ledger.known r isResponse
  have isRequest : r.request = i := by simpa using same
  omega

theorem responsesTo_append (s : Forwarding M B) (r : Response B) (i : Nat) {t : Forwarding M B}
    (same : t.responses = s.responses ++ [r]) :
    t.responsesTo i = s.responsesTo i ++ if r.request = i then [r] else [] := by
  by_cases isRequest : r.request = i
  · simp [responsesTo, same, isRequest]
  · simp [responsesTo, same, isRequest]

/-- A step adds no response, or it ends the request with one. -/
theorem Moves.responses_cases {wire : Wire M B} {phase : ForwardPhase M} {responses : List (Response B)}
    (moves : Moves wire s i request phase responses) :
    responses = s.responses
    ∨ ∃ r accepted, r.request = i ∧ phase = .ended accepted ∧ responses = s.responses ++ [r] := by
  cases moves with
  | accepted _ _ => exact .inl rfl
  | limited _ _ => exact .inl rfl
  | refused _ => exact .inl rfl
  | called _ _ => exact .inl rfl
  | missing _ _ => exact .inl rfl
  | found _ _ => exact .inl rfl
  | dropped _ _ _ => exact .inl rfl
  | sent _ _ _ isRequest _ => exact .inr ⟨_, _, isRequest, rfl, rfl⟩

theorem Moves.responsesTo_ne {wire : Wire M B} {j : Nat} {phase : ForwardPhase M}
    (moves : Moves wire s j request phase t.responses) (differ : j ≠ i) : t.responsesTo i = s.responsesTo i := by
  rcases moves.responses_cases with same | ⟨r, _, isRequest, _, added⟩
  · simp only [responsesTo, same]
  · rw [responsesTo_append s r i added, isRequest, if_neg differ, List.append_nil]

theorem Moves.responsesTo_self {wire : Wire M B} {phase : ForwardPhase M}
    (moves : Moves wire s i request phase t.responses) (before : s.responsesTo i = []) :
    (t.responsesTo i).length ≤ 1 ∧ ((∀ accepted, phase ≠ .ended accepted) → t.responsesTo i = []) := by
  rcases moves.responses_cases with same | ⟨r, accepted, isRequest, ended, added⟩
  · have none : t.responsesTo i = [] := by
      simpa only [responsesTo, same] using before
    simp [none]
  · rw [responsesTo_append s r i added, before, isRequest]
    simp [ended]

theorem Moves.not_ended {wire : Wire M B} {phase : ForwardPhase M} {responses : List (Response B)}
    (moves : Moves wire s i request phase responses) (accepted : Option Nat) : request.phase ≠ .ended accepted := by
  intro ended
  cases moves with
  | accepted there _ => simp [ended] at there
  | limited _ there => simp [ended] at there
  | refused there => simp [ended] at there
  | called _ there => simp [ended] at there
  | missing there _ => simp [ended] at there
  | found there _ => simp [ended] at there
  | dropped there _ _ => simp [ended] at there
  | sent there _ _ _ _ => simp [ended] at there

theorem Moves.held {wire : Wire M B} {phase : ForwardPhase M} {responses : List (Response B)}
    (moves : Moves wire s i request phase responses) (before : Held s.table.sessions request.gid request.phase) :
    Held s.table.sessions request.gid phase := by
  cases moves with
  | accepted _ inside => exact inside
  | limited response _ => trivial
  | refused _ => trivial
  | called response there =>
    rw [there] at before
    exact before
  | @missing accepted response there _ =>
    rw [there] at before
    cases accepted with
    | none => trivial
    | some arc => exact before
  | @found accepted response arc there entry =>
    rw [there] at before
    cases accepted with
    | none => trivial
    | some accepted =>
      refine ⟨before, ?_⟩
      intro entry'
      exact Option.some.inj (entry.symm.trans entry')
  | @dropped accepted arc response session there _ _ =>
    rw [there] at before
    cases accepted with
    | none => trivial
    | some accepted => exact before.1
  | @sent accepted arc response session r there _ _ _ _ =>
    rw [there] at before
    cases accepted with
    | none => trivial
    | some accepted => exact before.1

theorem Ledger.advance (ledger : Ledger s) {wire : Wire M B} {response : M} {now : Nat}
    (there : s.requests[i]? = some request) (taken : s.advance wire config i request response now = some t) :
    Ledger t := by
  obtain ⟨phase, requests, moves, players, arcs⟩ := advance_moves taken
  -- a request that moves had not ended, so it has no response yet
  have before : s.responsesTo i = [] := ledger.pending i request there moves.not_ended
  have older : s.table.sessions.Older t.table.sessions := by
    refine ⟨by omega, ?_⟩
    intro gid arc found _
    rwa [ClientSessions.get, players] at found
  have length : t.requests.length = s.requests.length := by rw [requests, List.length_set]
  constructor
  · -- known
    intro r isResponse
    rw [length]
    rcases moves.responses_cases with same | ⟨added, _, isRequest, _, same⟩
    · exact ledger.known r (same ▸ isResponse)
    · rw [same] at isResponse
      rcases List.mem_append.mp isResponse with old | new
      · exact ledger.known r old
      · rw [List.mem_singleton.mp new, isRequest]
        exact Pool.lt_length there
  · -- pending
    intro j other found unended
    rw [requests] at found
    rcases Pool.get_set_cases found with ⟨rfl, rfl⟩ | ⟨differ, found⟩
    · exact (moves.responsesTo_self before).2 unended
    · rw [moves.responsesTo_ne differ]
      exact ledger.pending j other found unended
  · -- atMost
    intro j
    by_cases same : i = j
    · subst same
      exact (moves.responsesTo_self before).1
    · rw [moves.responsesTo_ne same]
      exact ledger.atMost j
  · -- held
    intro j other found
    rw [requests] at found
    apply Held.older older
    rcases Pool.get_set_cases found with ⟨rfl, rfl⟩ | ⟨_, found⟩
    · exact moves.held (ledger.held i request there)
    · exact ledger.held j other found

/-- An abort leaves a request alone, or ends its call. -/
theorem abort_cases (conn : Connection) (request : Forward M) :
    request.abort conn = request
    ∨ ∃ arc, request.conn = conn ∧ request.phase = .calling arc
      ∧ request.abort conn = { request with phase := .ended (some arc) } := by
  by_cases same : request.conn = conn
  · cases phase : request.phase with
    | calling arc => exact .inr ⟨arc, same, rfl, by simp [Forward.abort, same, phase]⟩
    | accepting arc seq ack => exact .inl (by simp [Forward.abort, phase])
    | replying accepted response => exact .inl (by simp [Forward.abort, phase])
    | sending accepted arc response => exact .inl (by simp [Forward.abort, phase])
    | ended accepted => exact .inl (by simp [Forward.abort, phase])
  · exact .inl (by simp [Forward.abort, same])

theorem Ledger.step (ledger : Ledger s) {wire : Wire M B} {l : Label M} (taken : s.step wire config l = some t) :
    Ledger t := by
  cases l with
  | table label =>
    simp only [Forwarding.step, Option.map_eq_some_iff] at taken
    obtain ⟨table, moved, rfl⟩ := taken
    have older := Succession.older_step moved
    exact ⟨ledger.known, ledger.pending, ledger.atMost,
      fun i request found => (ledger.held i request found).older older⟩
  | forward conn gid kind seq ack =>
    simp only [Forwarding.step, Option.map_eq_some_iff] at taken
    obtain ⟨arc, _, rfl⟩ := taken
    refine ⟨?_, ?_, ledger.atMost, ?_⟩
    · intro r isResponse
      have inside := ledger.known r isResponse
      simp only [List.length_append, List.length_singleton]
      omega
    · intro i request found unended
      rcases Pool.get_append_cases found with ⟨rfl, rfl⟩ | ⟨_, found⟩
      · exact ledger.fresh (Nat.le_refl _)
      · exact ledger.pending i request found unended
    · intro i request found
      rcases Pool.get_append_cases found with ⟨rfl, rfl⟩ | ⟨_, found⟩
      · trivial
      · exact ledger.held i request found
  | advance i response now =>
    simp only [Forwarding.step, Option.bind_eq_some_iff] at taken
    obtain ⟨request, there, advanced⟩ := taken
    exact ledger.advance there advanced
  | onDisconnected conn =>
    obtain rfl := Option.some.inj taken
    refine ⟨?_, ?_, ledger.atMost, ?_⟩
    · intro r isResponse
      rw [List.length_map]
      exact ledger.known r isResponse
    · intro i aborted found unended
      simp only [List.getElem?_map, Option.map_eq_some_iff] at found
      obtain ⟨request, found, rfl⟩ := found
      rcases abort_cases conn request with same | ⟨arc, _, _, changed⟩
      · rw [same] at unended
        exact ledger.pending i request found unended
      · rw [changed] at unended
        exact absurd rfl (unended (some arc))
    · intro i aborted found
      simp only [List.getElem?_map, Option.map_eq_some_iff] at found
      obtain ⟨request, found, rfl⟩ := found
      have before := ledger.held i request found
      rcases abort_cases conn request with same | ⟨arc, _, calling, changed⟩
      · rw [same]
        exact before
      · rw [calling] at before
        rw [changed]
        exact before

theorem ledger_of_reach {wire : Wire M B} {config : ValidSessionConfig} {C : Forwarding M B → Label M → Prop}
    (reached : (system wire config).Reach C s) : Ledger s := by
  apply reached.inv
  · rintro _ rfl
    constructor
    · intro r isResponse
      cases isResponse
    · intro i request found
      cases found
    · intro i
      simp [responsesTo, new]
    · intro i request found
      cases found
  · intro s l t ledger _ taken
    exact ledger.step taken

/-! ## Undisturbed requests are answered -/

theorem Answered.advance (answered : Answered i s) (ledger : Ledger s) {wire : Wire M B} {j : Nat} {response : M}
    {now : Nat} (undisturbed : s.Undisturbed wire i (.advance j response now))
    (there : s.requests[j]? = some request) (taken : s.advance wire config j request response now = some t) :
    Answered i t := by
  obtain ⟨phase, requests, moves, players, _⟩ := advance_moves taken
  intro other arc found ended retained
  have entry : s.table.sessions.get other.gid = some arc := by rwa [ClientSessions.get, players] at retained
  clear retained
  rw [requests] at found
  rcases Pool.get_set_cases found with ⟨rfl, rfl⟩ | ⟨differ, found⟩
  · -- the request itself has ended with this step
    have before : s.responsesTo j = [] := ledger.pending j request there moves.not_ended
    have held := ledger.held j request there
    generalize after : t.responses = responses at moves
    simp only at ended entry
    cases moves with
    | accepted _ _ => cases ended
    | limited _ _ => cases ended
    | refused _ => cases ended
    | called _ _ => cases ended
    | found _ _ => cases ended
    | missing _ gone =>
      -- `send` found no session, but one is retained
      rw [gone] at entry
      cases entry
    | dropped sending behind unsendable =>
      exact absurd (undisturbed rfl request there _ _ _ sending _ behind) unsendable
    | sent sending _ _ isRequest isArc =>
      -- the `Arc` that `send` got from the map is the one that accepted the request
      cases ended
      rw [sending] at held
      refine ⟨_, ?_, isArc.trans (held.2 entry)⟩
      rw [responsesTo_append s _ j after, before, isRequest, if_pos rfl, List.nil_append]
  · rw [moves.responsesTo_ne differ]
    exact answered other arc found ended entry

theorem Answered.step (answered : Answered i s) (ledger : Ledger s) {wire : Wire M B} {l : Label M}
    (undisturbed : s.Undisturbed wire i l) (taken : s.step wire config l = some t) : Answered i t := by
  cases l with
  | table label =>
    simp only [Forwarding.step, Option.map_eq_some_iff] at taken
    obtain ⟨table, moved, rfl⟩ := taken
    intro request arc found ended entry
    -- the `Arc` of the request is not new, so its entry was there before the step
    have inside := ledger.held i request found
    rw [ended] at inside
    exact answered request arc found ended ((Succession.older_step moved).2 request.gid arc entry inside)
  | forward conn gid kind seq ack =>
    simp only [Forwarding.step, Option.map_eq_some_iff] at taken
    obtain ⟨_, _, rfl⟩ := taken
    intro request arc found ended entry
    rcases Pool.get_append_cases found with ⟨_, rfl⟩ | ⟨_, found⟩
    · cases ended
    · exact answered request arc found ended entry
  | advance j response now =>
    simp only [Forwarding.step, Option.bind_eq_some_iff] at taken
    obtain ⟨request, there, advanced⟩ := taken
    exact answered.advance ledger undisturbed there advanced
  | onDisconnected conn =>
    obtain rfl := Option.some.inj taken
    intro aborted arc found ended entry
    simp only [List.getElem?_map, Option.map_eq_some_iff] at found
    obtain ⟨request, found, rfl⟩ := found
    rcases abort_cases conn request with same | ⟨held, isConn, calling, _⟩
    · rw [same] at ended entry
      exact answered request arc found ended entry
    · exact absurd calling (undisturbed request found isConn held)

/-- A step that disturbs a request ends it, and it has no response. -/
theorem ended_of_disturbed (ledger : Ledger s) {wire : Wire M B} {l : Label M}
    (taken : s.step wire config l = some t) (disturbed : ¬ s.Undisturbed wire i l) :
    (∃ request accepted, t.requests[i]? = some request ∧ request.phase = .ended accepted) ∧ t.responsesTo i = [] := by
  cases l with
  | table label => exact absurd trivial disturbed
  | forward conn gid kind seq ack => exact absurd trivial disturbed
  | advance j response now =>
    simp only [Undisturbed, not_forall] at disturbed
    obtain ⟨rfl, request, there, accepted, arc, answer, sending, session, behind, unsendable⟩ := disturbed
    simp only [Forwarding.step, Option.bind_eq_some_iff] at taken
    obtain ⟨_, there', advanced⟩ := taken
    obtain rfl := Option.some.inj (Eq.symm there |>.trans there')
    obtain ⟨phase, requests, moves, _, _⟩ := advance_moves advanced
    have before : s.responsesTo i = [] := ledger.pending i request there moves.not_ended
    -- the request is in `sending`, and `send` cannot encode its response
    generalize after : t.responses = responses at moves
    cases moves with
    | dropped there'' _ _ =>
      constructor
      · rw [requests, Pool.get_set_self _ there]
        exact ⟨_, _, rfl, rfl⟩
      · simpa only [responsesTo, after] using before
    | sent there'' behind' sendable _ _ =>
      rw [sending] at there''
      cases there''
      obtain rfl := Option.some.inj (Eq.symm behind |>.trans behind')
      exact absurd sendable unsendable
    | accepted there'' _ => simp [sending] at there''
    | limited _ there'' => simp [sending] at there''
    | refused there'' => simp [sending] at there''
    | called _ there'' => simp [sending] at there''
    | missing there'' _ => simp [sending] at there''
    | found there'' _ => simp [sending] at there''
  | onDisconnected conn =>
    obtain rfl := Option.some.inj taken
    simp only [Undisturbed, not_forall, not_not] at disturbed
    obtain ⟨request, there, isConn, arc, calling⟩ := disturbed
    have there : s.requests[i]? = some request := there
    constructor
    · refine ⟨request.abort conn, some arc, by simp [there], ?_⟩
      simp [Forward.abort, isConn, calling]
    · apply ledger.pending i request there
      simp [calling]

/-- A response that is encoded is kept for a replay. -/
theorem response_retained {wire : Wire M B} (reserved : wire.systemMsgIdEnd ≤ 101) {l : Label M} {r : Response B}
    (taken : s.step wire config l = some t) (added : t.responses = s.responses ++ [r]) :
    ∃ (session : ClientSession B) (now : Nat), t.table.sessions.arcs[r.arc]? = some session
      ∧ session.outbox.getLast? = some ⟨r.seq, now, r.payload⟩ := by
  have grows : t.responses ≠ s.responses := by
    intro same
    rw [added] at same
    simp at same
  cases l with
  | table label =>
    simp only [step, Option.map_eq_some_iff] at taken
    obtain ⟨table, _, rfl⟩ := taken
    exact absurd rfl grows
  | forward conn gid kind seq ack =>
    simp only [step, Option.map_eq_some_iff] at taken
    obtain ⟨_, _, rfl⟩ := taken
    exact absurd rfl grows
  | onDisconnected conn =>
    obtain rfl := Option.some.inj taken
    exact absurd rfl grows
  | advance j response now =>
    simp only [step, Option.bind_eq_some_iff] at taken
    obtain ⟨request, _, advanced⟩ := taken
    obtain ⟨_, _, moves, _, _⟩ := advance_moves advanced
    generalize after : t.responses = responses at moves
    cases moves with
    | sent sending found sendable _ _ =>
      simp only [advance, sending, found, Option.map_some, Option.some.injEq] at advanced
      rcases s.send_cases wire config j request _ _ _ now with ⟨unsendable, _⟩ | ⟨_, left, payload, same, kept⟩
      · exact absurd sendable unsendable
      · rw [same] at advanced
        obtain rfl := advanced
        obtain rfl := List.singleton_inj.mp (List.append_cancel_left added)
        exact ⟨left, now, Pool.get_set_self left found, kept reserved⟩
    | accepted _ _ => exact absurd after grows
    | limited _ _ => exact absurd after grows
    | refused _ => exact absurd after grows
    | called _ _ => exact absurd after grows
    | missing _ _ => exact absurd after grows
    | found _ _ => exact absurd after grows
    | dropped _ _ _ => exact absurd after grows

/-- At most one response is encoded for a request, whatever happens, and exactly
    one if the request is not disturbed. -/
theorem accepted_request_answered (wire : Wire M B) (reserved : wire.systemMsgIdEnd ≤ 101)
    (config : ValidSessionConfig) (i : Nat) (s : Forwarding M B) :
    ((system wire config).Reach System.Any s → AtMostOnce wire config i s)
    ∧ ((system wire config).Reach (Undisturbed wire i) s → Answered i s) := by
  constructor
  · intro reached
    have ledger := ledger_of_reach reached
    exact
      { atMost := ledger.atMost i
        otherwise := fun _ _ taken disturbed => ended_of_disturbed ledger taken disturbed
        retained := fun _ _ _ taken added => response_retained reserved taken added }
  · intro reached
    apply reached.inv_with (fun _ reached => ledger_of_reach reached)
    · rintro _ rfl request arc found
      cases found
    · intro s l t ledger answered undisturbed taken
      exact answered.step ledger undisturbed taken

/-- A request is accepted on connection 7, answered and sent. -/
def answeredRequest : List (Label Unit) :=
  [.table (.installLogin 1 ⟨7⟩ ⟨1, 2⟩ 0), .forward ⟨7⟩ 1 .useItem 1 0, .advance 0 () 0, .advance 0 () 1,
    .advance 0 () 1, .advance 0 () 1, .table (.disconnect 1 7), .table (.tick 0 () 2), .onDisconnected ⟨7⟩]

theorem answeredRequest_answered :
    ∃ s : Forwarding Unit Unit, (∃ request, s.requests[0]? = some request ∧ request.phase = .ended (some 0))
      ∧ s.table.sessions.get 1 = some 0 ∧ Answered 0 s := by
  have run : ∃ s, System.follow (Undisturbed Gateway.blankWire 0)
      (step Gateway.blankWire SessionConfig.HARD_LIMITS) new answeredRequest = some s
      ∧ (∃ request, s.requests[0]? = some request ∧ request.phase = .ended (some 0))
      ∧ s.table.sessions.get 1 = some 0 := by
    decide +kernel
  obtain ⟨s, followed, ended, entry⟩ := run
  have reached : (system Gateway.blankWire .hardLimits).Reach (Undisturbed Gateway.blankWire 0) s :=
    System.reach_of_follow rfl followed
  exact ⟨s, ended, entry, (accepted_request_answered Gateway.blankWire (by decide) .hardLimits 0 s).2 reached⟩

/-- The connection drops while the service is called; the player resumes on
    connection 8 and the session is retained. -/
def droppedResponse : List (Label Unit) :=
  [.table (.installLogin 1 ⟨7⟩ ⟨1, 2⟩ 0), .forward ⟨7⟩ 1 .useItem 1 0, .advance 0 () 0, .advance 0 () 1,
    .table (.disconnect 1 7), .table (.tick 0 () 1), .table (.completeReconnect 1 7 ⟨8⟩ 2 0), .table (.tick 1 () 2),
    .advance 0 () 3, .advance 0 () 3]

theorem accepted_request_unanswered :
    ¬ ∀ s : Forwarding Unit Unit, (system Gateway.blankWire .hardLimits).Reach System.Any s → ∀ i, Answered i s := by
  intro answered
  have run : ∃ s, System.follow System.Any (step Gateway.blankWire SessionConfig.HARD_LIMITS) new droppedResponse
      = some s ∧ (∃ request, s.requests[0]? = some request ∧ request.gid = 1 ∧ request.phase = .ended (some 0))
      ∧ s.table.sessions.get 1 = some 0 ∧ s.responses = [] := by
    decide +kernel
  obtain ⟨s, followed, ⟨request, found, gid, ended⟩, entry, empty⟩ := run
  obtain ⟨r, one, _⟩ := answered s (System.reach_of_follow rfl followed) 0 request 0 found ended (gid ▸ entry)
  simp [responsesTo, empty] at one

end Forwarding

end Xkk.Gate
