import Mathlib.Data.String.Basic
import Xkk.Cache.Online
import Xkk.Lib.SortedSet
import Xkk.Lib.Transition

/-! # The login queue

A sorted set in Redis, scored by the time of the call.  The script of
`enqueue_login` drops the entries that are older than the TTL, adds the caller if
it is not there and answers its position.  A poll does not renew the score of an
entry, so a client keeps its place only while less than the TTL has passed since
its first call (`Waiting`).
-/

namespace Xkk.Cache

open Xkk.Lib

/-- The set `xkk:login_queue`, and when its key expires by the clock of Redis. -/
structure LoginQueue where
  scores : SortedSet.Scores Int Int
  expiresAt : Option Int

namespace LoginQueue

def empty : LoginQueue := ⟨∅, none⟩

/-- `ZRANK`; members with the same score are ordered by their bytes. -/
def rank (q : LoginQueue) (gid : Int) : Option Nat :=
  SortedSet.rank (toString : Int → String) q.scores gid

/-- The position that `enqueue_login` answers. -/
def position (q : LoginQueue) (gid : Int) : Option Int := (q.rank gid).map fun (rank : Nat) => (rank : Int) + 1

def expired (q : LoginQueue) (clock : Int) : Bool := q.expiresAt.any fun deadline => decide (deadline ≤ clock)

/-- Redis deletes the key with its last member. -/
def withScores (q : LoginQueue) (scores : SortedSet.Scores Int Int) : LoginQueue where
  scores := scores
  expiresAt := if scores.entries.isEmpty then none else q.expiresAt

/-- `PEXPIRE` fails when the deadline is not a 64-bit number; a TTL of zero deletes
    the key. -/
def pexpire (q : LoginQueue) (clock : Int) (ttl : Nat) : Option LoginQueue :=
  if clock + ttl ≥ 2 ^ 63 then none
  else if ttl = 0 then some empty
  else some { q with expiresAt := some (clock + ttl) }

/-- `entry_ttl.as_millis() as u64`, where `entry_ttl` is in nanoseconds. -/
def asMillis (entryTtl : Nat) : Nat := entryTtl / 10 ^ 6 % 2 ^ 64

/-- `stale_before` of the script, a difference of doubles. -/
def staleBefore (nowMs : Int) (entryTtl : Nat) : Int :=
  tonumber (tonumber nowMs - tonumber (asMillis entryTtl))

/-- The script `ENQUEUE`; no answer is a script that fails, with the effects so far. -/
def enqueueLogin (q : LoginQueue) (clock gid nowMs : Int) (entryTtl : Nat) : LoginQueue × Option Int :=
  let live := if q.expired clock then empty else q
  let kept := live.withScores (SortedSet.removeUpTo live.scores (staleBefore nowMs entryTtl))
  let added := { kept with scores := SortedSet.addNew kept.scores gid (tonumber nowMs) }
  match added.pexpire clock (asMillis entryTtl) with
  | none => (added, none)
  | some q => (q, q.position gid)

/-- `leave_login_queue` -/
def leaveLoginQueue (q : LoginQueue) (gid : Int) : LoginQueue := q.withScores (q.scores.erase gid)

/-! ## What the script does to the scores -/

variable {q : LoginQueue} {clock gid nowMs : Int} {entryTtl : Nat}

/-- The caller is told its position in the queue that the script leaves. -/
theorem answer_eq_position {answer : Int} (answered : (q.enqueueLogin clock gid nowMs entryTtl).2 = some answer) :
    (q.enqueueLogin clock gid nowMs entryTtl).1.position gid = some answer := by
  unfold enqueueLogin at answered ⊢
  dsimp only at answered ⊢
  split at answered
  · cases answered
  · exact answered

theorem enqueueLogin_scores (nonzero : asMillis entryTtl ≠ 0) :
    (q.enqueueLogin clock gid nowMs entryTtl).1.scores
      = SortedSet.addNew (SortedSet.removeUpTo (if q.expired clock then ∅ else q.scores)
          (staleBefore nowMs entryTtl)) gid (tonumber nowMs) := by
  have live : (if q.expired clock then empty else q).scores = if q.expired clock then ∅ else q.scores := by
    split <;> rfl
  rw [← live]
  unfold enqueueLogin pexpire
  by_cases large : clock + asMillis entryTtl ≥ 2 ^ 63
  · simp only [large, if_true]
    rfl
  · simp only [large, nonzero, if_false]
    rfl

/-- A score that is not stale survives the script. -/
theorem enqueueLogin_keeps (nonzero : asMillis entryTtl ≠ 0) {a score : Int}
    (found : q.scores.lookup a = some score) (alive : q.expired clock = false)
    (recent : staleBefore nowMs entryTtl < score) :
    (q.enqueueLogin clock gid nowMs entryTtl).1.scores.lookup a = some score := by
  rw [enqueueLogin_scores nonzero, alive]
  exact SortedSet.lookup_addNew_of_some (SortedSet.lookup_removeUpTo.mpr ⟨found, recent⟩) _ _

/-- A score after the script was there before, or is that of the call. -/
theorem enqueueLogin_cases (nonzero : asMillis entryTtl ≠ 0) {a score : Int}
    (found : (q.enqueueLogin clock gid nowMs entryTtl).1.scores.lookup a = some score) :
    q.scores.lookup a = some score ∨ (a = gid ∧ score = tonumber nowMs) := by
  rw [enqueueLogin_scores nonzero] at found
  cases SortedSet.lookup_addNew_cases found with
  | inl kept =>
    have before := (SortedSet.lookup_removeUpTo.mp kept).1
    split at before
    · simp at before
    · exact .inl before
  | inr new => exact .inr new

theorem enqueueLogin_adds (nonzero : asMillis entryTtl ≠ 0) (missing : q.scores.lookup gid = none) :
    (q.enqueueLogin clock gid nowMs entryTtl).1.scores.lookup gid = some (tonumber nowMs) := by
  rw [enqueueLogin_scores nonzero]
  apply SortedSet.lookup_addNew_self
  rw [Option.eq_none_iff_forall_ne_some]
  intro score found
  have before := (SortedSet.lookup_removeUpTo.mp found).1
  split at before
  · simp at before
  · rw [missing] at before
    cases before

theorem leaveLoginQueue_lookup {a score : Int} :
    (q.leaveLoginQueue gid).scores.lookup a = some score ↔ a ≠ gid ∧ q.scores.lookup a = some score := by
  change (q.scores.erase gid).lookup a = some score ↔ _
  by_cases same : a = gid
  · subst same
    simp
  · simp [same, AList.lookup_erase_ne same]

/-! ## Runs -/

/-- The queue with the first call of each client since it last left, and the time
    of the last call. -/
structure Waiters where
  queue : LoginQueue
  joined : Int → Option Int
  latest : Option Int

inductive Label where
  | enqueue (gid nowMs : Int) (entryTtl : Nat) (clock : Int)
  | leave (gid : Int)
deriving DecidableEq, Repr

def Waiters.initial : Waiters := ⟨empty, fun _ => none, none⟩

/-- The assertions of both functions are the guards; the times of the calls do not
    decrease. -/
def step (s : Waiters) : Label → Option Waiters
  | .enqueue gid nowMs entryTtl clock =>
    if gid > 0 ∧ entryTtl ≠ 0 ∧ ∀ latest ∈ s.latest, latest ≤ nowMs then
      some
        { queue := (s.queue.enqueueLogin clock gid nowMs entryTtl).1
          joined := Function.update s.joined gid (some ((s.joined gid).getD nowMs))
          latest := some nowMs }
    else none
  | .leave gid =>
    if gid > 0 then
      some { s with queue := s.queue.leaveLoginQueue gid, joined := Function.update s.joined gid none }
    else none

def system : System Waiters Label := .ofFun (· = .initial) step

/-- Whenever anybody calls, the entry of `a` is not stale and the key has not
    expired; the TTL is at least a millisecond. -/
def Waiting (a : Int) (s : Waiters) : Label → Prop
  | .enqueue _ nowMs entryTtl clock => asMillis entryTtl ≠ 0
    ∧ ∀ first, s.joined a = some first →
      s.queue.expired clock = false ∧ staleBefore nowMs entryTtl < tonumber first
  | .leave _ => True

/-! ## Scores and first calls -/

/-- An entry is not older than the first call of its client, and `a` has the score
    of its first call. -/
structure Placed (a : Int) (s : Waiters) : Prop where
  scored : ∀ gid score, s.queue.scores.lookup gid = some score →
    ∃ first, s.joined gid = some first ∧ tonumber first ≤ score
  past : ∀ gid first, s.joined gid = some first → ∃ latest, s.latest = some latest ∧ first ≤ latest
  placed : ∀ first, s.joined a = some first → s.queue.scores.lookup a = some (tonumber first)

variable {s t : Waiters} {a b : Int}

theorem placed_initial (a : Int) : Placed a .initial := by
  refine ⟨?_, nofun, nofun⟩
  intro gid score found
  cases found

theorem Placed.missing (inv : Placed a s) {gid : Int} (unknown : s.joined gid = none) :
    s.queue.scores.lookup gid = none := by
  rw [Option.eq_none_iff_forall_ne_some]
  intro score found
  obtain ⟨first, joined, _⟩ := inv.scored gid score found
  rw [unknown] at joined
  cases joined

/-- The first call of a client is not later than this one. -/
theorem Placed.first_le (inv : Placed a s) {gid nowMs : Int} (ordered : ∀ latest ∈ s.latest, latest ≤ nowMs) :
    (s.joined gid).getD nowMs ≤ nowMs := by
  cases joined : s.joined gid with
  | none => exact Int.le_refl _
  | some first =>
    obtain ⟨latest, isLatest, before⟩ := inv.past gid first joined
    exact before.trans (ordered latest isLatest)

theorem Placed.enqueue (inv : Placed a s) {gid nowMs clock : Int} {entryTtl : Nat}
    (ordered : ∀ latest ∈ s.latest, latest ≤ nowMs) (waiting : Waiting a s (.enqueue gid nowMs entryTtl clock)) :
    Placed a
      { queue := (s.queue.enqueueLogin clock gid nowMs entryTtl).1
        joined := Function.update s.joined gid (some ((s.joined gid).getD nowMs))
        latest := some nowMs } := by
  obtain ⟨nonzero, recent⟩ := waiting
  constructor
  · intro other score found
    dsimp only at found ⊢
    cases enqueueLogin_cases nonzero found with
    | inl before =>
      obtain ⟨first, joined, least⟩ := inv.scored other score before
      by_cases same : other = gid
      · subst same
        rw [Function.update_self, joined]
        exact ⟨first, rfl, least⟩
      · rw [Function.update_of_ne same]
        exact ⟨first, joined, least⟩
    | inr new =>
      obtain ⟨rfl, rfl⟩ := new
      rw [Function.update_self]
      exact ⟨_, rfl, tonumber_mono (inv.first_le ordered)⟩
  · intro other first joined
    refine ⟨nowMs, rfl, ?_⟩
    dsimp only at joined
    by_cases same : other = gid
    · subst same
      rw [Function.update_self] at joined
      obtain rfl := Option.some.inj joined
      exact inv.first_le ordered
    · rw [Function.update_of_ne same] at joined
      obtain ⟨latest, isLatest, before⟩ := inv.past other first joined
      exact before.trans (ordered latest isLatest)
  · intro first joined
    dsimp only at joined ⊢
    have keeps : ∀ first, s.joined a = some first →
        (s.queue.enqueueLogin clock gid nowMs entryTtl).1.scores.lookup a = some (tonumber first) := by
      intro first joined
      obtain ⟨alive, notStale⟩ := recent first joined
      exact enqueueLogin_keeps nonzero (inv.placed first joined) alive notStale
    by_cases same : a = gid
    · subst same
      rw [Function.update_self] at joined
      obtain rfl := Option.some.inj joined
      cases before : s.joined a with
      | none => exact enqueueLogin_adds nonzero (inv.missing before)
      | some first => exact keeps first before
    · rw [Function.update_of_ne same] at joined
      exact keeps first joined

theorem Placed.leave (inv : Placed a s) (gid : Int) :
    Placed a { s with queue := s.queue.leaveLoginQueue gid, joined := Function.update s.joined gid none } := by
  have others : ∀ {other first : Int}, Function.update s.joined gid none other = some first →
      other ≠ gid ∧ s.joined other = some first := by
    intro other first joined
    by_cases same : other = gid
    · subst same
      rw [Function.update_self] at joined
      cases joined
    · rw [Function.update_of_ne same] at joined
      exact ⟨same, joined⟩
  constructor
  · intro other score found
    obtain ⟨differ, before⟩ := leaveLoginQueue_lookup.mp found
    dsimp only
    rw [Function.update_of_ne differ]
    exact inv.scored other score before
  · intro other first joined
    exact inv.past other first (others joined).2
  · intro first joined
    obtain ⟨differ, before⟩ := others joined
    exact leaveLoginQueue_lookup.mpr ⟨differ, inv.placed first before⟩

theorem placed_reach (reached : system.Reach (Waiting a) s) : Placed a s := by
  refine reached.inv ?_ ?_
  · rintro s rfl
    exact placed_initial a
  · intro s l t inv waiting taken
    cases l with
    | enqueue gid nowMs entryTtl clock =>
      simp only [system, System.ofFun, step, Option.ite_none_right_eq_some, Option.some.injEq] at taken
      obtain ⟨⟨_, _, ordered⟩, rfl⟩ := taken
      exact inv.enqueue ordered waiting
    | leave gid =>
      simp only [system, System.ofFun, step, Option.ite_none_right_eq_some, Option.some.injEq] at taken
      obtain ⟨_, rfl⟩ := taken
      exact inv.leave gid

/-! ## The main result -/

/-- In every run of calls with non-decreasing times in which the entry of `a` does
    not go stale: `a` is queued from its first call on, in front of every client
    whose first call has a larger score; and the position that a call answers is
    the one in the queue that it leaves. -/
theorem queue_serves_in_order {first second : Int} (reached : system.Reach (Waiting a) s)
    (joined : s.joined a = some first) (later : s.joined b = some second)
    (ordered : tonumber first < tonumber second) :
    (∃ p, s.queue.position a = some p ∧ ∀ p', s.queue.position b = some p' → p < p')
    ∧ ∀ clock gid nowMs entryTtl answer,
      (s.queue.enqueueLogin clock gid nowMs entryTtl).2 = some answer →
      (s.queue.enqueueLogin clock gid nowMs entryTtl).1.position gid = some answer := by
  have inv := placed_reach reached
  have place := inv.placed first joined
  refine ⟨?_, fun _ _ _ _ _ answered => answer_eq_position answered⟩
  have ranked : ∃ n, s.queue.rank a = some n := by
    simp only [rank, SortedSet.rank, place, Option.map_some]
    exact ⟨_, rfl⟩
  obtain ⟨n, isRank⟩ := ranked
  refine ⟨n + 1, by simp only [position, isRank, Option.map_some], ?_⟩
  intro p' isPosition
  obtain ⟨m, isRank', rfl⟩ := Option.map_eq_some_iff.mp isPosition
  obtain ⟨score, found, _⟩ := Option.map_eq_some_iff.mp isRank'
  obtain ⟨earliest, same, least⟩ := inv.scored b score found
  rw [later] at same
  obtain rfl := Option.some.inj same
  have less := SortedSet.rank_lt_rank _ place found (lt_of_lt_of_le ordered least) isRank isRank'
  omega

/-- A call with the TTL of the Auth service. -/
def poll (gid nowMs : Int) : Label := .enqueue gid nowMs (30 * 10 ^ 9) nowMs

theorem two_clients_in_order :
    ∃ s : Waiters, s.joined 1 = some 1000 ∧ s.joined 2 = some 11000
      ∧ ∃ p, s.queue.position 1 = some p ∧ ∀ p', s.queue.position 2 = some p' → p < p' := by
  have first : system.Reach (Waiting 1) _ := .of_init rfl
  have second := first.step (l := poll 1 1000) ⟨by decide, nofun⟩ rfl
  have third := second.step (l := poll 2 11000) ⟨by decide, by rintro _ ⟨⟩; decide⟩ rfl
  exact ⟨_, rfl, rfl, (queue_serves_in_order third rfl rfl (by decide)).1⟩

/-- The times at which a client polls. -/
def pollTimes (gid : Int) (labels : List Label) : List Int :=
  labels.filterMap fun
    | .enqueue other nowMs _ _ => if other = gid then some nowMs else none
    | .leave _ => none

/-- Two clients poll.  The entry of the first is dropped after thirty seconds. -/
def overtaking : List Label :=
  [poll 1 1000, poll 2 11000, poll 1 21000, poll 2 30000, poll 1 31000, poll 2 32000]

/-- The client `1` calls first and keeps polling, and ends up behind the client `2`. -/
theorem patient_client_overtaken :
    (∀ gid ∈ [1, 2], (pollTimes gid overtaking).IsChain fun x y => y < x + 30000)
    ∧ (∀ gid, .leave gid ∉ overtaking)
    ∧ ∃ s : Waiters, System.follow System.Any step .initial overtaking = some s
      ∧ s.joined 1 = some 1000 ∧ s.joined 2 = some 11000
      ∧ s.queue.position 1 = some 2 ∧ s.queue.position 2 = some 1 := by
  refine ⟨by decide, ?_, _, rfl, rfl, rfl, by decide, by decide⟩
  intro gid member
  simp [overtaking, poll] at member

end LoginQueue

end Xkk.Cache
