import Xkk.Gate.Session
import Xkk.Lib.Transition
import Xkk.Lib.Window

/-! # The limiters of a client stream

A session keeps two queues of times.  `accept_rate` allows a number of requests
in a window and a smaller number in a burst; `authorize_reconnect` allows a number
of reconnects in a window and a number in the life of the stream.  Both pop from
the front of their queue what is too old.

The reference for both is the sliding window over the full history of what was
granted (`Window.recent`).
-/

namespace Xkk.Gate

open Xkk.Lib

/-! ## Requests -/

/-- The reference limiter: it decides by all requests that were accepted so far. -/
def allows (config : SessionConfig) (accepted : List Nat) (now : Nat) : Bool :=
  (Window.recent now config.requestWindow accepted).length < config.requestWindowCount
    && (Window.recent now config.burstWindow accepted).length < config.burstCount

/-- The history of the reference limiter after a request. -/
def record (config : SessionConfig) (accepted : List Nat) (now : Nat) : List Nat :=
  if allows config accepted now then accepted ++ [now] else accepted

/-- The decisions of the reference limiter. -/
def reference (config : SessionConfig) : List Nat → List Nat → List Bool
  | _, [] => []
  | accepted, now :: rest => allows config accepted now :: reference config (record config accepted now) rest

namespace ClientSession

variable {M B : Type}

/-- Calls of `accept_rate`, one after the other. -/
def acceptRates (config : SessionConfig) : ClientSession B → List Nat → List Bool × ClientSession B
  | s, [] => ([], s)
  | s, now :: rest =>
    let (accepted, s) := s.acceptRate now config
    let (outcomes, s) := acceptRates config s rest
    (accepted :: outcomes, s)

/-- The times of the calls that were accepted. -/
def acceptedTimes (config : SessionConfig) (s : ClientSession B) (times : List Nat) : List Nat :=
  ((times.zip (acceptRates config s times).1).filter (·.2)).map (·.1)

/-- The queue holds the recent part of the history, and the history keeps to both
    limits. -/
structure Tracks (config : SessionConfig) (clock : Nat) (accepted : List Nat) (s : ClientSession B) :
    Prop where
  ordered : Window.Ordered clock accepted
  queue : s.requestTimes = Window.recent clock config.requestWindow accepted
  bounded : s.requestTimes.length ≤ config.requestWindowCount
  limited : Window.Limited config.requestWindow config.requestWindowCount accepted
  burst : Window.Limited config.burstWindow config.burstCount accepted

variable {config : SessionConfig} {clock now : Nat} {accepted : List Nat} {s : ClientSession B}

theorem tracks_empty (config : SessionConfig) (empty : s.requestTimes = []) : Tracks config 0 [] s where
  ordered := .nil 0
  queue := empty
  bounded := by simp [empty]
  limited := Window.limited_nil _ _
  burst := Window.limited_nil _ _

/-- `accept_rate` decides as the reference limiter does, and prunes its queue
    whatever it decides. -/
theorem Tracks.acceptRate_eq (tracks : Tracks config clock accepted s) (later : clock ≤ now)
    (shorter : config.burstWindow ≤ config.requestWindow) :
    s.acceptRate now config = (allows config accepted now,
      { s with requestTimes := Window.recent now config.requestWindow accepted
                 ++ if allows config accepted now then [now] else [] }) := by
  have queued : Window.Ordered clock s.requestTimes := by
    rw [tracks.queue]
    exact tracks.ordered.recent ..
  have window : s.requestTimes.dropWhile (fun since => decide (now - since ≥ config.requestWindow))
      = Window.recent now config.requestWindow accepted := by
    rw [Window.dropWhile_eq_recent queued, tracks.queue, Window.recent_recent later (Nat.le_refl _)]
  have burst : ((Window.recent now config.requestWindow accepted).reverse.takeWhile
      fun since => decide (now - since < config.burstWindow)).length
      = (Window.recent now config.burstWindow accepted).length := by
    rw [Window.length_takeWhile_reverse (tracks.ordered.recent ..),
      Window.recent_recent (Nat.le_refl _) shorter]
  simp only [acceptRate, window, burst]
  by_cases full : (Window.recent now config.requestWindow accepted).length ≥ config.requestWindowCount
  · have refused : allows config accepted now = false := by
      simp only [allows, Bool.and_eq_false_imp, decide_eq_true_eq]
      intro room
      omega
    rw [if_pos full, refused]
    simp
  · rw [if_neg full]
    by_cases bursting : (Window.recent now config.burstWindow accepted).length ≥ config.burstCount
    · have refused : allows config accepted now = false := by
        simp [allows, bursting]
      rw [if_pos bursting, refused]
      simp
    · have allowed : allows config accepted now = true := by
        simp only [allows, Bool.and_eq_true, decide_eq_true_eq]
        omega
      rw [if_neg bursting, allowed]
      simp

theorem Tracks.acceptRate_fst (tracks : Tracks config clock accepted s) (later : clock ≤ now)
    (shorter : config.burstWindow ≤ config.requestWindow) :
    (s.acceptRate now config).1 = allows config accepted now := by
  rw [tracks.acceptRate_eq later shorter]

theorem Tracks.acceptRate (tracks : Tracks config clock accepted s) (later : clock ≤ now)
    (shorter : config.burstWindow ≤ config.requestWindow) (positive : 0 < config.requestWindow) :
    Tracks config now (record config accepted now) (s.acceptRate now config).2 := by
  have fewer : (Window.recent now config.requestWindow accepted).length ≤ s.requestTimes.length := by
    rw [tracks.queue, ← Window.recent_recent later (Nat.le_refl _)]
    exact List.length_filter_le ..
  rw [tracks.acceptRate_eq later shorter]
  cases decision : allows config accepted now with
  | false =>
    simp only [record, decision, Bool.false_eq_true, if_false, List.append_nil]
    exact {
      ordered := tracks.ordered.later later
      queue := rfl
      bounded := Nat.le_trans fewer tracks.bounded
      limited := tracks.limited
      burst := tracks.burst }
  | true =>
    obtain ⟨room, calm⟩ := Bool.and_eq_true_iff.mp decision
    simp only [decide_eq_true_eq] at room calm
    simp only [record, decision, if_true]
    exact {
      ordered := (tracks.ordered.later later).append
      queue := by simp [Window.recent, positive]
      bounded := by simpa using Nat.succ_le_of_lt room
      limited := tracks.limited.append room
      burst := tracks.burst.append calm }

/-- From a state that tracks a history, the code and the reference decide alike. -/
theorem Tracks.acceptRates (shorter : config.burstWindow ≤ config.requestWindow)
    (positive : 0 < config.requestWindow) {times : List Nat} :
    ∀ {clock accepted} {s : ClientSession B}, Tracks config clock accepted s →
      (clock :: times).Pairwise (· ≤ ·) →
      (ClientSession.acceptRates config s times).1 = reference config accepted times
      ∧ ∃ last ∈ clock :: times, Tracks config last (accepted ++ s.acceptedTimes config times)
        (ClientSession.acceptRates config s times).2 := by
  induction times with
  | nil =>
    intro clock accepted s tracks _
    refine ⟨rfl, clock, List.mem_cons_self, ?_⟩
    simp only [acceptedTimes, List.zip_nil_left, List.filter_nil, List.map_nil, List.append_nil]
    exact tracks
  | cons now rest ih =>
    intro clock accepted s tracks sorted
    obtain ⟨later, sorted⟩ := List.pairwise_cons.mp sorted
    have next := tracks.acceptRate (later now List.mem_cons_self) shorter positive
    have decided := tracks.acceptRate_fst (later now List.mem_cons_self) shorter
    obtain ⟨same, last, isLast, end_⟩ := ih next sorted
    refine ⟨?_, last, List.mem_cons_of_mem _ isLast, ?_⟩
    · simp only [ClientSession.acceptRates, reference, same, decided]
    · have history : accepted ++ s.acceptedTimes config (now :: rest) = record config accepted now
          ++ (s.acceptRate now config).2.acceptedTimes config rest := by
        simp only [acceptedTimes, ClientSession.acceptRates, List.zip_cons_cons, decided, record]
        cases allows config accepted now <;> simp
      rw [history]
      exact end_

/-- The request limiter of a session against the reference, over calls whose times
    never go back.  Both decide alike, so the accepted calls keep to both limits in
    every interval; the queue never outgrows the larger one; and a call that was
    rejected decides nothing later. -/
theorem request_limiter_is_sliding_window {config : SessionConfig} (valid : config.validate = true)
    (shorter : config.burstWindow ≤ config.requestWindow) {s : ClientSession B}
    (empty : s.requestTimes = []) {times : List Nat} (sorted : times.Pairwise (· ≤ ·)) :
    (acceptRates config s times).1 = reference config [] times
    ∧ Window.Limited config.requestWindow config.requestWindowCount (s.acceptedTimes config times)
    ∧ Window.Limited config.burstWindow config.burstCount (s.acceptedTimes config times)
    ∧ (∀ before after, times = before ++ after →
      (acceptRates config s before).2.requestTimes.length ≤ config.requestWindowCount)
    ∧ ∀ before now after, times = before ++ now :: after →
      ((acceptRates config s before).2.acceptRate now config).1 = false →
      (acceptRates config ((acceptRates config s before).2.acceptRate now config).2 after).1
        = (acceptRates config (acceptRates config s before).2 after).1 := by
  have positive : 0 < config.requestWindow := by
    simp only [SessionConfig.validate, Bool.and_eq_true, decide_eq_true_eq] at valid
    exact valid.2.1
  have start := tracks_empty config empty
  have fromZero : ∀ {times : List Nat}, times.Pairwise (· ≤ ·) → (0 :: times).Pairwise (· ≤ ·) :=
    fun sorted => List.pairwise_cons.mpr ⟨fun _ _ => Nat.zero_le _, sorted⟩
  obtain ⟨same, _, _, tracks⟩ := start.acceptRates shorter positive (fromZero sorted)
  refine ⟨same, tracks.limited, tracks.burst, ?_, ?_⟩
  · intro before after split
    rw [split] at sorted
    obtain ⟨_, _, _, tracks⟩ := start.acceptRates shorter positive
      (fromZero (List.pairwise_append.mp sorted).1)
    exact tracks.bounded
  · intro before now after split rejected
    rw [split] at sorted
    obtain ⟨beforeSorted, afterSorted, apart⟩ := List.pairwise_append.mp sorted
    obtain ⟨_, last, isLast, tracks⟩ := start.acceptRates shorter positive (fromZero beforeSorted)
    have later : ∀ time ∈ now :: after, last ≤ time := by
      intro time member
      cases List.mem_cons.mp isLast with
      | inl zero =>
        rw [zero]
        exact Nat.zero_le _
      | inr isBefore => exact apart last isBefore time member
    have next := tracks.acceptRate (later now List.mem_cons_self) shorter positive
    -- the rejected call leaves no trace in the history that the next decisions rest on
    have decided := tracks.acceptRate_fst (later now List.mem_cons_self) shorter
    rw [record, ← decided, rejected] at next
    have with_ := (next.acceptRates shorter positive afterSorted).1
    have without := (tracks.acceptRates shorter positive (List.pairwise_cons.mpr
      ⟨fun time member => later time (List.mem_cons_of_mem _ member), (List.pairwise_cons.mp afterSorted).2⟩)).1
    exact with_.trans without.symm

/-- Nine requests at one moment and another one a second later. -/
theorem ninth_request_waits :
    (acceptRates SessionConfig.HARD_LIMITS (new ⟨7⟩ ⟨1, 2⟩ 0 : ClientSession Unit)
      (List.replicate 9 0 ++ [1000000000])).1 = List.replicate 8 true ++ [false, true]
    ∧ Window.Limited 1000000000 8 ((new ⟨7⟩ ⟨1, 2⟩ 0 : ClientSession Unit).acceptedTimes
      SessionConfig.HARD_LIMITS (List.replicate 9 0 ++ [1000000000])) := by
  have valid : SessionConfig.HARD_LIMITS.validate = true := by decide
  have empty : (new ⟨7⟩ ⟨1, 2⟩ 0 : ClientSession Unit).requestTimes = [] := rfl
  have sorted : (List.replicate 9 0 ++ [1000000000]).Pairwise (· ≤ ·) := by decide
  have limited := request_limiter_is_sliding_window valid (by decide) empty sorted
  exact ⟨by decide +kernel, limited.2.2.1⟩

/-! ## Reconnects -/

/-- The two queues of times have no other writer. -/
structure SameReconnects (s t : ClientSession B) : Prop where
  count : t.reconnectCount = s.reconnectCount
  times : t.reconnectTimes = s.reconnectTimes

theorem SameReconnects.refl (s : ClientSession B) : SameReconnects s s := ⟨rfl, rfl⟩

theorem makeRoom_reconnects (s : ClientSession B) (now : Nat) (config : SessionConfig) :
    SameReconnects s (s.makeRoom now config) := by
  simp only [makeRoom]
  split
  · simp only [evictOldest]
    split <;> exact ⟨rfl, rfl⟩
  · exact ⟨rfl, rfl⟩

theorem encode_reconnects (wire : Wire M B) (s : ClientSession B) (msgid : MsgId) (message : M) (now : Nat)
    (config : SessionConfig) : SameReconnects s (s.encode wire msgid message now config).2 := by
  simp only [encode]
  split
  · exact ⟨rfl, rfl⟩
  · split
    · obtain ⟨count, times⟩ :=
        makeRoom_reconnects ({ s with serverSeq := s.serverSeq + 1 } : ClientSession B) now config
      exact ⟨count, times⟩
    · exact ⟨rfl, rfl⟩

theorem acceptSequence_reconnects (s : ClientSession B) (sessionId : SessionId) (seq ack : UInt32)
    (now ttl : Nat) : SameReconnects s (s.acceptSequence sessionId seq ack now ttl).2 := by
  obtain ⟨_, same⟩ | ⟨_, _, _, same⟩ := s.acceptSequence_cases sessionId seq ack now ttl
  · rw [same]
    exact .refl s
  · rw [same]
    exact ⟨rfl, rfl⟩

theorem acceptRequest_reconnects (s : ClientSession B) (sessionId : SessionId) (seq ack : UInt32)
    (now : Nat) (config : SessionConfig) :
    SameReconnects s (s.acceptRequest sessionId seq ack now config).2 := by
  obtain ⟨_, same⟩ := s.acceptRequest_snd sessionId seq ack now config
  obtain ⟨count, times⟩ := s.acceptSequence_reconnects sessionId seq ack now config.resumeTtl
  rw [same]
  exact ⟨count, times⟩

theorem disconnect_reconnects (s : ClientSession B) (sessionId : SessionId) (now : Nat) :
    SameReconnects s (s.disconnect sessionId now).2 := by
  obtain same | same := s.disconnect_snd sessionId now
  · rw [same]
    exact .refl s
  · rw [same]
    exact ⟨rfl, rfl⟩

theorem completeReconnect_reconnects (s : ClientSession B) (previous : SessionId) (conn : Connection)
    (clientSeq ack : UInt32) (now : Nat) (config : SessionConfig) :
    SameReconnects s (s.completeReconnect previous conn clientSeq ack now config).2 := by
  obtain ⟨_, same⟩ | ⟨_, _, same⟩ | ⟨_, _, same⟩ :=
    s.completeReconnect_cases previous conn clientSeq ack now config
  · rw [same]
    exact .refl s
  · rw [same]
    exact ⟨rfl, rfl⟩
  · rw [same]
    exact ⟨rfl, rfl⟩

/-- The session, the sequence, the expiry and the outbox allow the reconnect. -/
def resumes (s : ClientSession B) (previous : SessionId) (clientSeq ack : UInt32) (now : Nat)
    (config : SessionConfig) : Bool :=
  s.authorizes previous clientSeq now config && !(s.pruneOutbox now config.resumeTtl).outboxGap ack

/-- What is left of the window of reconnects. -/
def reconnectsInWindow (s : ClientSession B) (now : Nat) (config : SessionConfig) : List Nat :=
  s.reconnectTimes.dropWhile fun since => now - since ≥ config.reconnectWindow

/-- Whether a reconnect that `resumes` is granted, and what its limits leave. -/
inductive Decides (s : ClientSession B) (now : Nat) (config : SessionConfig) :
    Bool → Bool → ClientSession B → Prop
  | refused {t : ClientSession B} : SameReconnects s t → Decides s now config false false t
  | exhausted {t : ClientSession B} :
      config.reconnectTotal ≤ s.reconnectCount → SameReconnects s t → Decides s now config true false t
  | full {t : ClientSession B} :
      s.reconnectCount < config.reconnectTotal →
      config.reconnectWindowCount ≤ (s.reconnectsInWindow now config).length →
      t.reconnectCount = s.reconnectCount → t.reconnectTimes = s.reconnectsInWindow now config →
      Decides s now config true false t
  | granted {t : ClientSession B} :
      s.reconnectCount < config.reconnectTotal →
      (s.reconnectsInWindow now config).length < config.reconnectWindowCount →
      t.reconnectCount = s.reconnectCount + 1 →
      t.reconnectTimes = s.reconnectsInWindow now config ++ [now] → Decides s now config true true t

theorem authorizeReconnect_decides (s : ClientSession B) (previous : SessionId) (clientSeq ack : UInt32)
    (now : Nat) (config : SessionConfig) :
    Decides s now config (s.resumes previous clientSeq ack now config)
      (s.authorizeReconnect previous clientSeq ack now config).1.isOk
      (s.authorizeReconnect previous clientSeq ack now config).2 := by
  simp only [authorizeReconnect, resumes, authorizes]
  by_cases same : s.sessionId = previous
  case neg =>
    simp only [same, ne_eq, not_false_eq_true, if_true, decide_false, Bool.false_and]
    exact .refused (.refl s)
  case pos =>
    by_cases newer : seqAfter clientSeq s.clientSeq = true
    case neg =>
      simp only [same, newer, ne_eq, not_true_eq_false, if_false, if_true, Bool.false_and, Bool.and_false]
      exact .refused (.refl s)
    case pos =>
      by_cases expired : (s.disconnectedAt.any fun since => now - since > config.resumeTtl) = true
      case pos =>
        simp only [same, newer, expired, ne_eq, not_true_eq_false, if_false, if_true, Bool.true_eq_false,
          Bool.not_true, Bool.false_and, Bool.and_false]
        exact .refused (.refl s)
      case neg =>
        by_cases gap : (s.pruneOutbox now config.resumeTtl).outboxGap ack = true
        case pos =>
          simp only [same, newer, expired, gap, ne_eq, not_true_eq_false, if_false, if_true,
            Bool.true_eq_false, Bool.not_true, Bool.and_false]
          exact .refused ⟨rfl, rfl⟩
        case neg =>
          simp only [same, newer, expired, gap, ne_eq, not_true_eq_false, if_false, decide_true,
            Bool.true_eq_false, Bool.false_eq_true, Bool.not_false, Bool.and_true]
          split
          · next exhausted => exact .exhausted exhausted ⟨rfl, rfl⟩
          · next left =>
            split
            · next full => exact .full (Nat.lt_of_not_le left) full rfl rfl
            · next room => exact .granted (Nat.lt_of_not_le left) (Nat.lt_of_not_le room) rfl rfl

end ClientSession

/-- One session and the times at which it has granted a reconnect. -/
structure Reconnects (B : Type) where
  session : ClientSession B
  clock : Nat
  granted : List Nat
deriving DecidableEq, Repr

namespace Reconnects

variable {M B : Type}

def new (conn : Connection) (routes : Routes) (clientSeq : UInt32) (now : Nat) : Reconnects B :=
  ⟨.new conn routes clientSeq, now, []⟩

inductive Op (M : Type) where
  | encode (msgid : MsgId) (message : M) (now : Nat)
  | acceptSequence (sessionId : SessionId) (seq ack : UInt32) (now : Nat)
  | acceptRequest (sessionId : SessionId) (seq ack : UInt32) (now : Nat)
  | disconnect (sessionId : SessionId) (now : Nat)
  | takeConn (now : Nat)                   -- in `kick` and `drain`
  | authorizeReconnect (previous : SessionId) (clientSeq ack : UInt32) (now : Nat)
  | completeReconnect (previous : SessionId) (conn : Connection) (clientSeq ack : UInt32) (now : Nat)

def Op.time : Op M → Nat
  | .encode _ _ now | .acceptSequence _ _ _ now | .acceptRequest _ _ _ now | .disconnect _ now | .takeConn now
  | .authorizeReconnect _ _ _ now | .completeReconnect _ _ _ _ now => now

/-- What an operation leaves in the session. -/
def Op.apply (wire : Wire M B) (config : SessionConfig) (s : ClientSession B) : Op M → ClientSession B
  | .encode msgid message now => (s.encode wire msgid message now config).2
  | .acceptSequence sessionId seq ack now => (s.acceptSequence sessionId seq ack now config.resumeTtl).2
  | .acceptRequest sessionId seq ack now => (s.acceptRequest sessionId seq ack now config).2
  | .disconnect sessionId now => (s.disconnect sessionId now).2
  | .takeConn _ => { s with conn := none }
  | .authorizeReconnect previous clientSeq ack now =>
    (s.authorizeReconnect previous clientSeq ack now config).2
  | .completeReconnect previous conn clientSeq ack now =>
    (s.completeReconnect previous conn clientSeq ack now config).2

/-- The operation is a reconnect that is authorized. -/
def Op.grants (config : SessionConfig) (s : ClientSession B) : Op M → Bool
  | .authorizeReconnect previous clientSeq ack now =>
    (s.authorizeReconnect previous clientSeq ack now config).1.isOk
  | _ => false

def step (wire : Wire M B) (config : SessionConfig) (s : Reconnects B) (op : Op M) : Reconnects B where
  session := op.apply wire config s.session
  clock := op.time
  granted := s.granted ++ if op.grants config s.session then [op.time] else []

def Forward (s : Reconnects B) (op : Op M) : Prop := s.clock ≤ op.time

instance (s : Reconnects B) (op : Op M) : Decidable (s.Forward op) := inferInstanceAs (Decidable (_ ≤ _))

/-- All runs of one session from `ClientSession::new`. -/
def system (wire : Wire M B) (config : ValidSessionConfig) : System (Reconnects B) (Op M) :=
  .ofFun (fun s => ∃ conn routes clientSeq now, s = .new conn routes clientSeq now)
    fun s op => some (s.step wire config.toSessionConfig op)

/-- The counter and the queue of the session agree with the history, which keeps
    to both limits. -/
structure Counted (config : SessionConfig) (s : Reconnects B) : Prop where
  ordered : Window.Ordered s.clock s.granted
  count : s.session.reconnectCount = s.granted.length
  total : s.granted.length ≤ config.reconnectTotal
  limited : Window.Limited config.reconnectWindow config.reconnectWindowCount s.granted
  queue : ∃ pruned ≤ s.clock,
    s.session.reconnectTimes = Window.recent pruned config.reconnectWindow s.granted

variable {config : SessionConfig} {s : Reconnects B}

theorem counted_new (config : SessionConfig) (conn : Connection) (routes : Routes) (clientSeq : UInt32)
    (now : Nat) : Counted config (new conn routes clientSeq now : Reconnects B) where
  ordered := .nil now
  count := rfl
  total := Nat.zero_le _
  limited := Window.limited_nil _ _
  queue := ⟨now, Nat.le_refl _, rfl⟩

/-- The window that `authorize_reconnect` counts is the recent part of the history. -/
theorem Counted.window (inv : Counted config s) {now : Nat} (later : s.clock ≤ now) :
    s.session.reconnectsInWindow now config = Window.recent now config.reconnectWindow s.granted := by
  obtain ⟨pruned, past, queue⟩ := inv.queue
  rw [ClientSession.reconnectsInWindow, queue, Window.dropWhile_eq_recent (inv.ordered.recent ..),
    Window.recent_recent (Nat.le_trans past later) (Nat.le_refl _)]

/-- Every operation but a granted reconnect keeps the history. -/
theorem Counted.keep (inv : Counted config s) {session : ClientSession B} {now : Nat} (later : s.clock ≤ now)
    (same : ClientSession.SameReconnects s.session session) :
    Counted config ⟨session, now, s.granted⟩ where
  ordered := inv.ordered.later later
  count := same.count.trans inv.count
  total := inv.total
  limited := inv.limited
  queue := by
    obtain ⟨pruned, past, queue⟩ := inv.queue
    exact ⟨pruned, Nat.le_trans past later, same.times.trans queue⟩

theorem Counted.authorizeReconnect (inv : Counted config s) (positive : 0 < config.reconnectWindow)
    (previous : SessionId) (clientSeq ack : UInt32) {now : Nat} (later : s.clock ≤ now) :
    Counted config ⟨(s.session.authorizeReconnect previous clientSeq ack now config).2, now,
      s.granted ++ if (s.session.authorizeReconnect previous clientSeq ack now config).1.isOk then [now] else []⟩ := by
  have decides := s.session.authorizeReconnect_decides previous clientSeq ack now config
  revert decides
  generalize s.session.resumes previous clientSeq ack now config = resumes
  generalize (s.session.authorizeReconnect previous clientSeq ack now config).1.isOk = granted
  generalize (s.session.authorizeReconnect previous clientSeq ack now config).2 = session
  intro decides
  cases decides with
  | refused same | exhausted _ same =>
    simp only [Bool.false_eq_true, if_false, List.append_nil]
    exact inv.keep later same
  | full _ _ count times =>
    simp only [Bool.false_eq_true, if_false, List.append_nil]
    exact {
      ordered := inv.ordered.later later
      count := count.trans inv.count
      total := inv.total
      limited := inv.limited
      queue := ⟨now, Nat.le_refl _, times.trans (inv.window later)⟩ }
  | granted left room count times =>
    rw [inv.window later] at room times
    rw [inv.count] at left count
    simp only [if_true]
    exact {
      ordered := (inv.ordered.later later).append
      count := by rw [count, List.length_append, List.length_singleton]
      total := by rw [List.length_append, List.length_singleton]; exact left
      limited := inv.limited.append room
      queue := ⟨now, Nat.le_refl _, by rw [times]; simp [Window.recent, positive]⟩ }

/-- The other operations touch neither the counter nor the queue. -/
theorem Counted.other (inv : Counted config s) {wire : Wire M B} {op : Op M} (later : s.Forward op)
    (quiet : op.grants config s.session = false)
    (same : ClientSession.SameReconnects s.session (op.apply wire config s.session)) :
    Counted config (s.step wire config op) := by
  simp only [step, quiet, Bool.false_eq_true, if_false, List.append_nil]
  exact inv.keep later same

theorem counted_step (wire : Wire M B) (inv : Counted config s) (positive : 0 < config.reconnectWindow)
    (op : Op M) (later : s.Forward op) : Counted config (s.step wire config op) := by
  cases op with
  | authorizeReconnect previous clientSeq ack now =>
    exact inv.authorizeReconnect positive previous clientSeq ack later
  | encode msgid message now => exact inv.other later rfl (s.session.encode_reconnects ..)
  | acceptSequence sessionId seq ack now => exact inv.other later rfl (s.session.acceptSequence_reconnects ..)
  | acceptRequest sessionId seq ack now => exact inv.other later rfl (s.session.acceptRequest_reconnects ..)
  | disconnect sessionId now => exact inv.other later rfl (s.session.disconnect_reconnects ..)
  | takeConn now => exact inv.other later rfl ⟨rfl, rfl⟩
  | completeReconnect previous conn clientSeq ack now =>
    exact inv.other later rfl (s.session.completeReconnect_reconnects ..)

theorem reconnectWindow_pos (config : ValidSessionConfig) : 0 < config.reconnectWindow := by
  have valid := config.valid
  simp only [SessionConfig.validate, Bool.and_eq_true, decide_eq_true_eq] at valid
  exact valid.1.1.1.2

theorem counted_of_reach {wire : Wire M B} {config : ValidSessionConfig}
    (reached : (system wire config).Reach Forward s) : Counted config.toSessionConfig s := by
  refine reached.inv ?_ ?_
  · rintro _ ⟨conn, routes, clientSeq, now, rfl⟩
    exact counted_new ..
  · intro s op t inv later taken
    cases taken
    exact counted_step wire inv (reconnectWindow_pos config) op later

/-- Reconnects over every run of one session whose times never go back: the total
    and every window keep to their limits, and a reconnect that nothing else refuses
    is granted exactly when both limits have room for it. -/
theorem reconnects_limited_exactly {wire : Wire M B} {config : ValidSessionConfig}
    (reached : (system wire config).Reach Forward s) :
    s.granted.length ≤ config.reconnectTotal
    ∧ Window.Limited config.reconnectWindow config.reconnectWindowCount s.granted
    ∧ ∀ previous clientSeq ack now, s.clock ≤ now →
      s.session.resumes previous clientSeq ack now config.toSessionConfig = true →
      ((s.session.authorizeReconnect previous clientSeq ack now config.toSessionConfig).1.isOk = true ↔
        (s.granted ++ [now]).length ≤ config.reconnectTotal
        ∧ Window.Limited config.reconnectWindow config.reconnectWindowCount (s.granted ++ [now])) := by
  have inv := counted_of_reach reached
  refine ⟨inv.total, inv.limited, ?_⟩
  intro previous clientSeq ack now later resumes
  have decides := s.session.authorizeReconnect_decides previous clientSeq ack now config.toSessionConfig
  rw [resumes] at decides
  rw [List.length_append, List.length_singleton]
  constructor
  · intro isOk
    rw [isOk] at decides
    cases decides with
    | granted left room _ _ =>
      rw [inv.count] at left
      rw [inv.window later] at room
      exact ⟨left, inv.limited.append room⟩
  · rintro ⟨left, limited⟩
    have room := limited.room (inv.ordered.later later) (reconnectWindow_pos config)
    rw [← inv.window later] at room
    rw [← inv.count] at left
    revert decides
    generalize (s.session.authorizeReconnect previous clientSeq ack now config.toSessionConfig).1.isOk = granted
    intro decides
    cases decides with
    | exhausted spent _ => exact absurd left (Nat.not_lt_of_le spent)
    | full _ full _ _ => exact absurd room (Nat.not_lt_of_le full)
    | granted => rfl

/-- Six reconnects at one moment, of which the last one is refused, and one that
    comes after the window. -/
def sevenReconnects : List (Op Unit) :=
  List.replicate 6 (.authorizeReconnect 7 1 0 5) ++ [.authorizeReconnect 7 1 0 (5 + 60 * 1000000000)]

theorem sevenReconnects_limited :
    ∃ s : Reconnects Unit, s.granted = List.replicate 5 5 ++ [5 + 60 * 1000000000]
      ∧ s.granted.length ≤ 10 ∧ Window.Limited (60 * 1000000000) 5 s.granted := by
  have run : ∃ s, System.follow Forward (fun s op => some (step (⟨100, fun _ _ => none⟩ : Wire Unit Unit)
      SessionConfig.HARD_LIMITS s op)) (new ⟨7⟩ ⟨1, 2⟩ 0 0) sevenReconnects = some s
      ∧ s.granted = List.replicate 5 5 ++ [5 + 60 * 1000000000] := by
    decide +kernel
  obtain ⟨s, followed, granted⟩ := run
  have reached : (system ⟨100, fun _ _ => none⟩ .hardLimits).Reach Forward s :=
    System.reach_of_follow ⟨_, _, _, _, rfl⟩ followed
  obtain ⟨total, limited, _⟩ := reconnects_limited_exactly reached
  exact ⟨s, granted, total, limited⟩

end Reconnects

end Xkk.Gate
