import Xkk.Lib.Histogram
import Xkk.Lib.Transition

/-! # Latency histograms under concurrent calls

`LatencyRecorder::record` updates three kinds of atomics and `snapshot` loads all
of them, one after the other and with relaxed ordering: the parts of a call, and
the loads of a snapshot, take effect in any order.  A snapshot therefore need not
agree with any set of calls.  It lies between two: the calls that were over when
it began, and those that had begun when it was complete.
-/

namespace Xkk.Common

open Xkk.Lib Xkk.Lib.Histogram

def U64_MAX : Nat := 2 ^ 64 - 1

def BUCKETS_US : List Nat :=
  [10, 25, 50, 100, 250, 500, 1000, 2500, 5000, 7500, 10000, 15000, 20000, 30000, 50000, 75000, 100000,
    150000, 250000, 500000, U64_MAX]

/-- Addition on `u64`, as `fetch_add` and the release profile do it. -/
def fetchAdd (x n : Nat) : Nat := (x + n) % 2 ^ 64

structure LatencyStats where
  counts : List Nat
  totalMicros : Nat
  maxMicros : Nat
deriving DecidableEq, Repr

namespace LatencyStats

def count (stats : LatencyStats) : Nat := stats.counts.foldl fetchAdd 0

def averageMicros (stats : LatencyStats) : Option Nat :=
  if stats.count ≠ 0 then some (stats.totalMicros / stats.count) else none

/-- The loop of `percentile_micros`; `none` is its `unreachable!`. -/
def percentileLoop (rank : Nat) : Nat → List (Nat × Nat) → Option Nat
  | _, [] => none
  | seen, (bound, count) :: rest =>
    let seen := fetchAdd seen count
    if seen ≥ rank then some bound else percentileLoop rank seen rest

/-- `ceil` is `(count as f64 * percentile / 100.0).ceil() as u64`. -/
def percentileMicros (stats : LatencyStats) (ceil : Nat → Nat) : Option (Option Nat) :=
  if stats.count = 0 then some none
  else (percentileLoop (max (ceil stats.count) 1) 0 (BUCKETS_US.zip stats.counts)).map some

end LatencyStats

structure LatencyRecorder where
  counts : List Nat
  totalMicros : Nat
  maxMicros : Nat
deriving DecidableEq, Repr

/-- `LatencyRecorder::default` -/
def LatencyRecorder.default : LatencyRecorder := ⟨List.replicate BUCKETS_US.length 0, 0, 0⟩

/-! ## Calls -/

/-- A call of `record`, with the updates that it has made. -/
structure RecordCall where
  micros : Nat
  counted : Bool
  summed : Bool
  raised : Bool
deriving DecidableEq, Repr

/-- A call of `snapshot`, with what it has loaded.  `before` are the durations of
    the calls that were over when it began. -/
structure Reading where
  before : List Nat
  counts : List (Option Nat)
  totalMicros : Option Nat
  maxMicros : Option Nat
deriving DecidableEq, Repr

/-- A snapshot, and the durations of the calls that had begun by then. -/
structure Taken where
  before : List Nat
  after : List Nat
  stats : LatencyStats
deriving DecidableEq, Repr

structure Latencies where
  recorder : LatencyRecorder
  calls : List RecordCall
  readings : List Reading
  taken : List Taken
deriving DecidableEq, Repr

namespace RecordCall

/-- The start of `record`; `elapsed` is in microseconds. -/
def start (elapsed : Nat) : RecordCall := ⟨min elapsed U64_MAX, false, false, false⟩

def isOver (call : RecordCall) : Bool := call.counted && call.summed && call.raised

end RecordCall

/-- The durations of the calls that have begun. -/
def begun (calls : List RecordCall) : List Nat := calls.map (·.micros)

/-- The durations of the calls that have made an update. -/
def marked (mark : RecordCall → Bool) (calls : List RecordCall) : List Nat :=
  begun (calls.filter mark)

namespace Reading

def start (calls : List RecordCall) : Reading :=
  ⟨marked RecordCall.isOver calls, List.replicate BUCKETS_US.length none, none, none⟩

/-- The snapshot, when everything has been loaded. -/
def stats (reading : Reading) : Option LatencyStats := do
  let counts ← reading.counts.mapM id
  let totalMicros ← reading.totalMicros
  let maxMicros ← reading.maxMicros
  return ⟨counts, totalMicros, maxMicros⟩

end Reading

namespace Latencies

inductive Label where
  | record (elapsed : Nat)
  | addCount (i : Nat)
  | addTotal (i : Nat)
  | raiseMax (i : Nat)
  | snapshot
  | loadCount (k bucket : Nat)
  | loadTotal (k : Nat)
  | loadMax (k : Nat)
  | finish (k : Nat)
deriving DecidableEq, Repr

/-- The call with an update that is still due. -/
def due (s : Latencies) (i : Nat) (mark : RecordCall → Bool) : Option RecordCall :=
  s.calls[i]?.filter fun call => !mark call

/-- The snapshot with a load that is still due. -/
def reading (s : Latencies) (k : Nat) (isDue : Reading → Bool) : Option Reading := s.readings[k]?.filter isDue

def setReading (s : Latencies) (k : Nat) (reading : Reading) : Latencies :=
  { s with readings := s.readings.set k reading }

def step (s : Latencies) : Label → Option Latencies
  | .record elapsed => some { s with calls := s.calls ++ [RecordCall.start elapsed] }
  | .addCount i => (s.due i (·.counted)).map fun call =>
    { s with
      recorder.counts := s.recorder.counts.modify (bucketOf BUCKETS_US call.micros) (fetchAdd · 1)
      calls := s.calls.set i { call with counted := true } }
  | .addTotal i => (s.due i (·.summed)).map fun call =>
    { s with
      recorder.totalMicros := fetchAdd s.recorder.totalMicros call.micros
      calls := s.calls.set i { call with summed := true } }
  | .raiseMax i => (s.due i (·.raised)).map fun call =>
    { s with
      recorder.maxMicros := Nat.max s.recorder.maxMicros call.micros
      calls := s.calls.set i { call with raised := true } }
  | .snapshot => some { s with readings := s.readings ++ [Reading.start s.calls] }
  | .loadCount k bucket =>
    (s.reading k fun reading => reading.counts[bucket]? = some none).map fun reading =>
      s.setReading k { reading with counts := reading.counts.set bucket s.recorder.counts[bucket]? }
  | .loadTotal k => (s.reading k (·.totalMicros.isNone)).map fun reading =>
    s.setReading k { reading with totalMicros := some s.recorder.totalMicros }
  | .loadMax k => (s.reading k (·.maxMicros.isNone)).map fun reading =>
    s.setReading k { reading with maxMicros := some s.recorder.maxMicros }
  | .finish k => s.readings[k]?.bind fun reading => reading.stats.map fun stats =>
    { s with readings := s.readings.eraseIdx k, taken := s.taken ++ [⟨reading.before, begun s.calls, stats⟩] }

def system : System Latencies Label :=
  System.ofFun (fun s => s = ⟨LatencyRecorder.default, [], [], []⟩) step

end Latencies

/-! ## What the calls have done -/

section calls

variable {calls : List RecordCall} {mark : RecordCall → Bool} {i : Nat} {call after : RecordCall}

theorem split_of_found (found : calls[i]? = some call) :
    ∃ front rest, calls = front ++ call :: rest ∧ ∀ after, calls.set i after = front ++ after :: rest := by
  induction calls generalizing i with
  | nil => simp at found
  | cons first calls ih =>
    cases i with
    | zero =>
      simp only [List.getElem?_cons_zero, Option.some.injEq] at found
      exact ⟨[], calls, by simp [found], by simp⟩
    | succ i =>
      obtain ⟨front, rest, isList, isSet⟩ := ih (by simpa using found)
      exact ⟨first :: front, rest, by simp [isList], by simp [isSet]⟩

/-- An update that makes the mark adds one duration. -/
theorem marked_set_new (found : calls[i]? = some call) (same : after.micros = call.micros)
    (due : mark call = false) (made : mark after = true) :
    (marked mark (calls.set i after)).Perm (call.micros :: marked mark calls) := by
  obtain ⟨front, rest, isList, isSet⟩ := split_of_found found
  rw [isSet, isList]
  simp [marked, begun, due, made, same]

theorem marked_set_same (found : calls[i]? = some call) (same : after.micros = call.micros)
    (kept : mark after = mark call) : marked mark (calls.set i after) = marked mark calls := by
  obtain ⟨front, rest, isList, isSet⟩ := split_of_found found
  rw [isSet, isList]
  cases marks : mark call with
  | true => simp [marked, begun, kept, marks, same]
  | false => simp [marked, begun, kept, marks]

theorem marked_set_sublist (found : calls[i]? = some call) (same : after.micros = call.micros)
    (rises : mark call = true → mark after = true) :
    (marked mark calls).Sublist (marked mark (calls.set i after)) := by
  obtain ⟨front, rest, isList, isSet⟩ := split_of_found found
  rw [isSet, isList]
  cases marks : mark call with
  | true => simp [marked, begun, rises marks, marks, same]
  | false =>
    cases made : mark after with
    | true => simp [marked, begun, marks, made]
    | false => simp [marked, begun, marks, made]

theorem begun_set (found : calls[i]? = some call) (same : after.micros = call.micros) :
    begun (calls.set i after) = begun calls := by
  obtain ⟨front, rest, isList, isSet⟩ := split_of_found found
  rw [isSet, isList]
  simp [begun, same]

theorem marked_sublist (mark : RecordCall → Bool) (calls : List RecordCall) :
    (marked mark calls).Sublist (begun calls) :=
  (List.filter_sublist).map _

/-- Over means that every update has been made. -/
theorem over_sublist (made : ∀ call : RecordCall, call.isOver = true → mark call = true)
    (calls : List RecordCall) : (marked RecordCall.isOver calls).Sublist (marked mark calls) :=
  (List.monotone_filter_right calls made).map _

end calls

/-- Calls begin and proceed. -/
structure Grows (old new : List RecordCall) : Prop where
  begun : (begun old).Sublist (begun new)
  counted : (marked (·.counted) old).Sublist (marked (·.counted) new)
  summed : (marked (·.summed) old).Sublist (marked (·.summed) new)
  raised : (marked (·.raised) old).Sublist (marked (·.raised) new)

theorem Grows.record (calls : List RecordCall) (elapsed : Nat) :
    Grows calls (calls ++ [RecordCall.start elapsed]) := by
  constructor <;> simp [Common.begun, marked, RecordCall.start]

theorem Grows.set {calls : List RecordCall} {i : Nat} {call after : RecordCall} (found : calls[i]? = some call)
    (same : after.micros = call.micros) (counted : call.counted = true → after.counted = true)
    (summed : call.summed = true → after.summed = true) (raised : call.raised = true → after.raised = true) :
    Grows calls (calls.set i after) where
  begun := by rw [begun_set found same]
  counted := marked_set_sublist found same counted
  summed := marked_set_sublist found same summed
  raised := marked_set_sublist found same raised

/-! ## What a load returns -/

section loads

variable {before between after later : List Nat} {i v : Nat}

def BucketBetween (before after : List Nat) (i v : Nat) : Prop :=
  ∃ n, tally BUCKETS_US before i ≤ n ∧ n ≤ tally BUCKETS_US after i ∧ v = n % 2 ^ 64

def TotalBetween (before after : List Nat) (v : Nat) : Prop :=
  ∃ n, before.sum ≤ n ∧ n ≤ after.sum ∧ v = n % 2 ^ 64

def MaxBetween (before after : List Nat) (v : Nat) : Prop :=
  (∀ micros ∈ before, micros ≤ v) ∧ (v = 0 ∨ v ∈ after)

theorem sum_le_of_sublist (sublist : before.Sublist after) : before.sum ≤ after.sum := by
  induction sublist with
  | slnil => exact le_refl 0
  | cons x _ ih => simp only [List.sum_cons]; omega
  | cons_cons x _ ih => simp only [List.sum_cons]; omega

theorem BucketBetween.mono (loaded : BucketBetween before after i v) (sublist : after.Sublist later) :
    BucketBetween before later i v := by
  obtain ⟨n, least, most, isValue⟩ := loaded
  exact ⟨n, least, le_trans most sublist.countP_le, isValue⟩

theorem TotalBetween.mono (loaded : TotalBetween before after v) (sublist : after.Sublist later) :
    TotalBetween before later v := by
  obtain ⟨n, least, most, isValue⟩ := loaded
  exact ⟨n, least, le_trans most (sum_le_of_sublist sublist), isValue⟩

theorem MaxBetween.mono (loaded : MaxBetween before after v) (sublist : after.Sublist later) :
    MaxBetween before later v :=
  ⟨loaded.1, loaded.2.imp_right fun member => sublist.subset member⟩

end loads

/-- What the loads of a snapshot have returned, and that the calls that were over
    before it began have made their updates. -/
structure Reading.Bracketed (calls : List RecordCall) (reading : Reading) : Prop where
  length : reading.counts.length = BUCKETS_US.length
  counted : reading.before.Sublist (marked (·.counted) calls)
  summed : reading.before.Sublist (marked (·.summed) calls)
  raised : reading.before.Sublist (marked (·.raised) calls)
  counts : ∀ i v, reading.counts[i]? = some (some v) → BucketBetween reading.before (begun calls) i v
  total : ∀ v, reading.totalMicros = some v → TotalBetween reading.before (begun calls) v
  max : ∀ v, reading.maxMicros = some v → MaxBetween reading.before (begun calls) v

/-- The same of a complete snapshot. -/
structure Taken.Bracketed (taken : Taken) : Prop where
  length : taken.stats.counts.length = BUCKETS_US.length
  began : taken.before.Sublist taken.after
  bounded : ∀ micros ∈ taken.after, micros ≤ U64_MAX
  counts : ∀ i v, taken.stats.counts[i]? = some v → BucketBetween taken.before taken.after i v
  total : TotalBetween taken.before taken.after taken.stats.totalMicros
  max : MaxBetween taken.before taken.after taken.stats.maxMicros

theorem Reading.Bracketed.mono {old new : List RecordCall} {reading : Reading}
    (bracketed : reading.Bracketed old) (grows : Grows old new) : reading.Bracketed new where
  length := bracketed.length
  counted := bracketed.counted.trans grows.counted
  summed := bracketed.summed.trans grows.summed
  raised := bracketed.raised.trans grows.raised
  counts := fun i v loaded => (bracketed.counts i v loaded).mono grows.begun
  total := fun v loaded => (bracketed.total v loaded).mono grows.begun
  max := fun v loaded => (bracketed.max v loaded).mono grows.begun

theorem Reading.Bracketed.start (calls : List RecordCall) : (Reading.start calls).Bracketed calls where
  length := by simp [Reading.start]
  counted := over_sublist (by simp +contextual [RecordCall.isOver]) calls
  summed := over_sublist (by simp +contextual [RecordCall.isOver]) calls
  raised := over_sublist (by simp +contextual [RecordCall.isOver]) calls
  counts := by
    intro i v loaded
    simp [Reading.start, List.getElem?_replicate] at loaded
  total := by simp [Reading.start]
  max := by simp [Reading.start]

theorem mapM_id_eq_some {l : List (Option Nat)} {values : List Nat} (all : l.mapM id = some values) :
    l = values.map some := by
  induction l generalizing values with
  | nil =>
    cases all
    rfl
  | cons x l ih =>
    simp only [List.mapM_cons, id, Option.bind_eq_bind, Option.bind_eq_some_iff] at all
    obtain ⟨value, rfl, rest, others, same⟩ := all
    obtain rfl := Option.some.inj same
    rw [List.map_cons, ih others]

theorem Reading.Bracketed.finish {calls : List RecordCall} {reading : Reading} {stats : LatencyStats}
    (bracketed : reading.Bracketed calls) (bounded : ∀ micros ∈ begun calls, micros ≤ U64_MAX)
    (complete : reading.stats = some stats) :
    Taken.Bracketed ⟨reading.before, begun calls, stats⟩ := by
  simp only [Reading.stats, Option.bind_eq_bind, Option.bind_eq_some_iff] at complete
  obtain ⟨counts, all, total, isTotal, most, isMost, same⟩ := complete
  obtain rfl := Option.some.inj same
  have isCounts := mapM_id_eq_some all
  exact {
    length := by simpa [isCounts] using bracketed.length
    began := bracketed.counted.trans (marked_sublist _ _)
    bounded := bounded
    counts := fun i v loaded => bracketed.counts i v (by simp [isCounts, List.getElem?_map, loaded])
    total := bracketed.total total isTotal
    max := bracketed.max most isMost }

/-! ## The atomics -/

theorem buckets_rising : BUCKETS_US.Pairwise (· < ·) := by decide

theorem bucket_lt {micros : Nat} (bounded : micros ≤ U64_MAX) :
    bucketOf BUCKETS_US micros < BUCKETS_US.length :=
  bucketOf_lt buckets_rising micros (by simp [BUCKETS_US]) bounded

namespace Latencies

variable {s t : Latencies}

/-- Each atomic has taken in the calls that have made its update, and every
    snapshot lies between its calls. -/
structure Sound (s : Latencies) : Prop where
  bounded : ∀ micros ∈ begun s.calls, micros ≤ U64_MAX
  length : s.recorder.counts.length = BUCKETS_US.length
  counts : ∀ i v, s.recorder.counts[i]? = some v →
    v = tally BUCKETS_US (marked (·.counted) s.calls) i % 2 ^ 64
  total : s.recorder.totalMicros = (marked (·.summed) s.calls).sum % 2 ^ 64
  max : ∀ m, s.recorder.maxMicros ≤ m ↔ ∀ micros ∈ marked (·.raised) s.calls, micros ≤ m
  readings : ∀ reading ∈ s.readings, reading.Bracketed s.calls
  taken : ∀ taken ∈ s.taken, taken.Bracketed

theorem sound_initial : Sound ⟨LatencyRecorder.default, [], [], []⟩ where
  bounded := by simp [begun]
  length := by simp [LatencyRecorder.default]
  counts := by
    intro i v loaded
    obtain ⟨_, rfl⟩ : i < BUCKETS_US.length ∧ 0 = v := by
      simpa [LatencyRecorder.default, List.getElem?_replicate] using loaded
    rfl
  total := rfl
  max := by simp [LatencyRecorder.default, marked, begun]
  readings := by simp
  taken := by simp

theorem due_some {i : Nat} {mark : RecordCall → Bool} {call : RecordCall} (isDue : s.due i mark = some call) :
    s.calls[i]? = some call ∧ mark call = false := by
  simpa [due, Option.filter_eq_some_iff] using isDue

theorem Sound.record (sound : Sound s) (elapsed : Nat) :
    Sound { s with calls := s.calls ++ [RecordCall.start elapsed] } :=
  have grows := Grows.record s.calls elapsed
  have unmarked : ∀ mark : RecordCall → Bool, mark (RecordCall.start elapsed) = false →
      marked mark (s.calls ++ [RecordCall.start elapsed]) = marked mark s.calls := by
    intro mark off
    simp [marked, off]
  { bounded := by
      intro micros member
      rw [begun, List.map_append] at member
      rcases List.mem_append.mp member with old | new
      · exact sound.bounded micros old
      · obtain rfl := List.mem_singleton.mp new
        exact Nat.min_le_right _ _
    length := sound.length
    counts := by
      rw [unmarked (·.counted) rfl]
      exact sound.counts
    total := by
      rw [unmarked (·.summed) rfl]
      exact sound.total
    max := by
      rw [unmarked (·.raised) rfl]
      exact sound.max
    readings := fun reading member => (sound.readings reading member).mono grows
    taken := sound.taken }

/-- One call makes one update. -/
theorem Sound.advance (sound : Sound s) {i : Nat} {call : RecordCall} (after : RecordCall)
    {recorder : LatencyRecorder} (found : s.calls[i]? = some call) (same : after.micros = call.micros)
    (grows : Grows s.calls (s.calls.set i after)) (length : recorder.counts.length = BUCKETS_US.length)
    (counts : ∀ j v, recorder.counts[j]? = some v →
      v = tally BUCKETS_US (marked (·.counted) (s.calls.set i after)) j % 2 ^ 64)
    (total : recorder.totalMicros = (marked (·.summed) (s.calls.set i after)).sum % 2 ^ 64)
    (max : ∀ m, recorder.maxMicros ≤ m ↔ ∀ micros ∈ marked (·.raised) (s.calls.set i after), micros ≤ m) :
    Sound { s with recorder := recorder, calls := s.calls.set i after } where
  bounded := by
    dsimp only
    rw [begun_set found same]
    exact sound.bounded
  length := length
  counts := counts
  total := total
  max := max
  readings := fun reading member => (sound.readings reading member).mono grows
  taken := sound.taken

theorem Sound.addCount (sound : Sound s) {i : Nat} {call : RecordCall}
    (found : s.calls[i]? = some call) (due : call.counted = false) :
    Sound { s with
      recorder.counts := s.recorder.counts.modify (bucketOf BUCKETS_US call.micros) (fetchAdd · 1)
      calls := s.calls.set i { call with counted := true } } := by
  have added : (marked (·.counted) (s.calls.set i { call with counted := true })).Perm
      (call.micros :: marked (·.counted) s.calls) := marked_set_new found rfl due rfl
  have summed : marked (·.summed) (s.calls.set i { call with counted := true }) = marked (·.summed) s.calls :=
    marked_set_same found rfl rfl
  have raised : marked (·.raised) (s.calls.set i { call with counted := true }) = marked (·.raised) s.calls :=
    marked_set_same found rfl rfl
  apply sound.advance { call with counted := true } found rfl (Grows.set found rfl (fun _ => rfl) id id)
  case length => simpa using sound.length
  case counts =>
    intro j v loaded
    rw [List.getElem?_modify] at loaded
    obtain ⟨old, isOld, isNew⟩ := Option.map_eq_some_iff.mp loaded
    have before := sound.counts j old isOld
    have counted : tally BUCKETS_US (marked (·.counted) (s.calls.set i { call with counted := true })) j
        = tally BUCKETS_US (marked (·.counted) s.calls) j
          + if bucketOf BUCKETS_US call.micros = j then 1 else 0 := by
      simp [tally, added.countP_eq, List.countP_cons]
    rw [counted]
    by_cases here : bucketOf BUCKETS_US call.micros = j
    · rw [if_pos here] at isNew ⊢
      rw [← isNew, fetchAdd, before]
      omega
    · rw [if_neg here] at isNew ⊢
      rw [← isNew, Nat.add_zero]
      exact before
  case total => rw [summed]; exact sound.total
  case max => rw [raised]; exact sound.max

theorem Sound.addTotal (sound : Sound s) {i : Nat} {call : RecordCall}
    (found : s.calls[i]? = some call) (due : call.summed = false) :
    Sound { s with
      recorder.totalMicros := fetchAdd s.recorder.totalMicros call.micros
      calls := s.calls.set i { call with summed := true } } := by
  have added : (marked (·.summed) (s.calls.set i { call with summed := true })).Perm
      (call.micros :: marked (·.summed) s.calls) := marked_set_new found rfl due rfl
  have counted : marked (·.counted) (s.calls.set i { call with summed := true }) = marked (·.counted) s.calls :=
    marked_set_same found rfl rfl
  have raised : marked (·.raised) (s.calls.set i { call with summed := true }) = marked (·.raised) s.calls :=
    marked_set_same found rfl rfl
  apply sound.advance { call with summed := true } found rfl (Grows.set found rfl id (fun _ => rfl) id)
  case length => exact sound.length
  case counts => rw [counted]; exact sound.counts
  case total =>
    have isSum : (marked (·.summed) (s.calls.set i { call with summed := true })).sum
        = call.micros + (marked (·.summed) s.calls).sum := added.sum_eq.trans List.sum_cons
    show fetchAdd s.recorder.totalMicros call.micros = _
    rw [isSum, fetchAdd, sound.total]
    omega
  case max => rw [raised]; exact sound.max

theorem Sound.raiseMax (sound : Sound s) {i : Nat} {call : RecordCall}
    (found : s.calls[i]? = some call) (due : call.raised = false) :
    Sound { s with
      recorder.maxMicros := Nat.max s.recorder.maxMicros call.micros
      calls := s.calls.set i { call with raised := true } } := by
  have added : (marked (·.raised) (s.calls.set i { call with raised := true })).Perm
      (call.micros :: marked (·.raised) s.calls) := marked_set_new found rfl due rfl
  have counted : marked (·.counted) (s.calls.set i { call with raised := true }) = marked (·.counted) s.calls :=
    marked_set_same found rfl rfl
  have summed : marked (·.summed) (s.calls.set i { call with raised := true }) = marked (·.summed) s.calls :=
    marked_set_same found rfl rfl
  apply sound.advance { call with raised := true } found rfl (Grows.set found rfl id id fun _ => rfl)
  case length => exact sound.length
  case counts => rw [counted]; exact sound.counts
  case total => rw [summed]; exact sound.total
  case max =>
    intro m
    have before := sound.max m
    simp only [added.mem_iff, List.forall_mem_cons, ← before]
    show Nat.max s.recorder.maxMicros call.micros ≤ m ↔ _
    rw [Nat.max_le]
    exact and_comm

theorem Sound.setReading (sound : Sound s) {k : Nat} {reading : Reading}
    (bracketed : reading.Bracketed s.calls) : Sound (s.setReading k reading) where
  bounded := sound.bounded
  length := sound.length
  counts := sound.counts
  total := sound.total
  max := sound.max
  readings := by
    intro other member
    rcases List.mem_or_eq_of_mem_set member with old | rfl
    · exact sound.readings other old
    · exact bracketed
  taken := sound.taken

theorem reading_some {k : Nat} {isDue : Reading → Bool} {reading : Reading}
    (found : s.reading k isDue = some reading) : reading ∈ s.readings ∧ isDue reading = true := by
  obtain ⟨found, due⟩ := Option.filter_eq_some_iff.mp found
  exact ⟨List.mem_of_getElem? found, due⟩

theorem Sound.loadCount (sound : Sound s) {reading : Reading} (member : reading ∈ s.readings) (bucket : Nat) :
    Reading.Bracketed s.calls
      { reading with counts := reading.counts.set bucket s.recorder.counts[bucket]? } := by
  have bracketed := sound.readings reading member
  exact { bracketed with
    length := by simpa using bracketed.length
    counts := by
      intro i v loaded
      rw [List.getElem?_set] at loaded
      split at loaded
      next here =>
        subst here
        rw [Option.ite_none_right_eq_some, Option.some.injEq] at loaded
        refine ⟨tally BUCKETS_US (marked (·.counted) s.calls) bucket, ?_, ?_, sound.counts bucket v loaded.2⟩
        · exact bracketed.counted.countP_le
        · exact (marked_sublist _ _).countP_le
      next => exact bracketed.counts i v loaded }

theorem Sound.loadTotal (sound : Sound s) {reading : Reading} (member : reading ∈ s.readings) :
    Reading.Bracketed s.calls { reading with totalMicros := some s.recorder.totalMicros } := by
  have bracketed := sound.readings reading member
  exact { bracketed with
    total := by
      intro v loaded
      obtain rfl := Option.some.inj loaded
      exact ⟨(marked (·.summed) s.calls).sum, sum_le_of_sublist bracketed.summed,
        sum_le_of_sublist (marked_sublist _ _), sound.total⟩ }

theorem Sound.loadMax (sound : Sound s) {reading : Reading} (member : reading ∈ s.readings) :
    Reading.Bracketed s.calls { reading with maxMicros := some s.recorder.maxMicros } := by
  have bracketed := sound.readings reading member
  exact { bracketed with
    max := by
      intro v loaded
      obtain rfl := Option.some.inj loaded
      have most := (sound.max s.recorder.maxMicros).mp (le_refl _)
      refine ⟨fun micros started => most micros (bracketed.raised.subset started), ?_⟩
      -- a maximum that no call has raised would be above all of them
      by_contra neither
      obtain ⟨positive, absent⟩ := not_or.mp neither
      have below := (sound.max (s.recorder.maxMicros - 1)).mpr fun micros member => by
        have differ : micros ≠ s.recorder.maxMicros :=
          fun same => absent (same ▸ (marked_sublist _ _).subset member)
        have ordered := most micros member
        omega
      omega }

theorem Sound.step (sound : Sound s) {l : Label} (taken : s.step l = some t) : Sound t := by
  cases l with
  | record elapsed =>
    obtain rfl := Option.some.inj taken
    exact sound.record elapsed
  | addCount i =>
    obtain ⟨call, isDue, rfl⟩ := Option.map_eq_some_iff.mp taken
    obtain ⟨found, due⟩ := due_some isDue
    exact sound.addCount found due
  | addTotal i =>
    obtain ⟨call, isDue, rfl⟩ := Option.map_eq_some_iff.mp taken
    obtain ⟨found, due⟩ := due_some isDue
    exact sound.addTotal found due
  | raiseMax i =>
    obtain ⟨call, isDue, rfl⟩ := Option.map_eq_some_iff.mp taken
    obtain ⟨found, due⟩ := due_some isDue
    exact sound.raiseMax found due
  | snapshot =>
    obtain rfl := Option.some.inj taken
    exact { sound with
      readings := by
        intro reading member
        rcases List.mem_append.mp member with old | new
        · exact sound.readings reading old
        · obtain rfl := List.mem_singleton.mp new
          exact Reading.Bracketed.start s.calls }
  | loadCount k bucket =>
    obtain ⟨reading, found, rfl⟩ := Option.map_eq_some_iff.mp taken
    exact sound.setReading (sound.loadCount (reading_some found).1 bucket)
  | loadTotal k =>
    obtain ⟨reading, found, rfl⟩ := Option.map_eq_some_iff.mp taken
    exact sound.setReading (sound.loadTotal (reading_some found).1)
  | loadMax k =>
    obtain ⟨reading, found, rfl⟩ := Option.map_eq_some_iff.mp taken
    exact sound.setReading (sound.loadMax (reading_some found).1)
  | finish k =>
    obtain ⟨reading, found, taken⟩ := Option.bind_eq_some_iff.mp taken
    obtain ⟨stats, complete, rfl⟩ := Option.map_eq_some_iff.mp taken
    have bracketed := sound.readings reading (List.mem_of_getElem? found)
    exact { sound with
      readings := fun other member => sound.readings other (List.mem_of_mem_eraseIdx member)
      taken := by
        intro other member
        rcases List.mem_append.mp member with old | new
        · exact sound.taken other old
        · obtain rfl := List.mem_singleton.mp new
          exact bracketed.finish sound.bounded complete }

theorem sound_reach (reached : system.Reach System.Any s) : Sound s :=
  reached.inv (fun _ initial => initial ▸ sound_initial) fun _ _ _ sound _ taken => sound.step taken

end Latencies

/-! ## Reading a snapshot -/

theorem foldl_fetchAdd {counts : List Nat} {seen : Nat} (fits : seen + counts.sum < 2 ^ 64) :
    counts.foldl fetchAdd seen = seen + counts.sum := by
  induction counts generalizing seen with
  | nil => rfl
  | cons count counts ih =>
    rw [List.sum_cons] at fits ⊢
    have added : fetchAdd seen count = seen + count := Nat.mod_eq_of_lt (by omega)
    rw [List.foldl_cons, added, ih (by omega)]
    omega

/-- Without overflow the loop is the search for a rank. -/
theorem percentileLoop_eq {bounds counts : List Nat} {rank seen : Nat} (fits : seen + counts.sum < 2 ^ 64) :
    LatencyStats.percentileLoop rank seen (bounds.zip counts) = rankBound bounds counts rank seen := by
  induction bounds generalizing counts seen with
  | nil => simp [LatencyStats.percentileLoop, rankBound]
  | cons bound bounds ih =>
    cases counts with
    | nil => simp [LatencyStats.percentileLoop, rankBound]
    | cons count counts =>
      rw [List.sum_cons] at fits
      have added : fetchAdd seen count = seen + count := Nat.mod_eq_of_lt (by omega)
      rw [List.zip_cons_cons, LatencyStats.percentileLoop, rankBound, added, ih (by omega)]

namespace Taken

variable {taken : Taken}

/-- Few enough calls do not overflow a count. -/
theorem Bracketed.bucket (bracketed : taken.Bracketed) (few : taken.after.length < 2 ^ 64) {i : Nat}
    (inside : i < BUCKETS_US.length) :
    tally BUCKETS_US taken.before i ≤ taken.stats.counts.getD i 0
    ∧ taken.stats.counts.getD i 0 ≤ tally BUCKETS_US taken.after i := by
  have there : i < taken.stats.counts.length := by rw [bracketed.length]; exact inside
  have found := List.getElem?_eq_getElem there
  obtain ⟨n, least, most, isValue⟩ := bracketed.counts i _ found
  have fits : n < 2 ^ 64 := lt_of_le_of_lt (le_trans most List.countP_le_length) few
  rw [Nat.mod_eq_of_lt fits] at isValue
  simp only [List.getD_eq_getElem?_getD, found, Option.getD_some, isValue]
  exact ⟨least, most⟩

theorem Bracketed.sum (bracketed : taken.Bracketed) (few : taken.after.length < 2 ^ 64) :
    taken.before.length ≤ taken.stats.counts.sum ∧ taken.stats.counts.sum ≤ taken.after.length := by
  have last : BUCKETS_US[BUCKETS_US.length - 1]? = some U64_MAX := by decide
  have all : taken.stats.counts = (List.range BUCKETS_US.length).map fun i => taken.stats.counts.getD i 0 := by
    have whole := take_map_range bracketed.length (show BUCKETS_US.length - 1 < BUCKETS_US.length by decide)
    rw [List.take_of_length_le (by rw [bracketed.length]; decide)] at whole
    exact whole
  have started : ∀ micros ∈ taken.before, micros ≤ U64_MAX :=
    fun micros member => bracketed.bounded micros (bracketed.began.subset member)
  rw [all, ← sum_tally_all buckets_rising last started, ← sum_tally_all buckets_rising last bracketed.bounded]
  constructor
  · exact sum_map_le _ fun i member => (bracketed.bucket few (List.mem_range.mp member)).1
  · exact sum_map_le _ fun i member => (bracketed.bucket few (List.mem_range.mp member)).2

end Taken

namespace Latencies

variable {s : Latencies}

/-- No call indexes past the buckets, and a snapshot lies between the calls that were
    over before it and those that had begun when it was complete: its count, its total
    if the counter does not wrap, its maximum, and each of its percentiles, which never
    runs out of buckets. -/
theorem snapshot_brackets (reached : system.Reach System.Any s) {taken : Taken} (member : taken ∈ s.taken)
    (few : taken.after.length < 2 ^ 64) :
    (∀ call ∈ s.calls, bucketOf BUCKETS_US call.micros < s.recorder.counts.length)
    ∧ taken.before.length ≤ taken.stats.count ∧ taken.stats.count ≤ taken.after.length
    ∧ (∀ ceil : Nat → Nat, (∀ n, ceil n ≤ n) → taken.stats.count ≠ 0 →
      ∃ bound, taken.stats.percentileMicros ceil = some (some bound)
        ∧ max (ceil taken.stats.count) 1 ≤ taken.after.countP (· ≤ bound)
        ∧ ∀ lower ∈ BUCKETS_US, lower < bound →
          taken.before.countP (· ≤ lower) < max (ceil taken.stats.count) 1)
    ∧ (taken.after.sum < 2 ^ 64 →
      taken.before.sum ≤ taken.stats.totalMicros ∧ taken.stats.totalMicros ≤ taken.after.sum)
    ∧ (∀ micros ∈ taken.before, micros ≤ taken.stats.maxMicros)
    ∧ (taken.stats.maxMicros = 0 ∨ taken.stats.maxMicros ∈ taken.after) := by
  have sound := sound_reach reached
  have bracketed := sound.taken taken member
  obtain ⟨least, most⟩ := bracketed.sum few
  have fits : 0 + taken.stats.counts.sum < 2 ^ 64 := by omega
  have isCount : taken.stats.count = taken.stats.counts.sum := (foldl_fetchAdd fits).trans (Nat.zero_add _)
  rw [isCount]
  refine ⟨?_, least, most, ?_, ?_, bracketed.max⟩
  · intro call begins
    rw [sound.length]
    exact bucket_lt (sound.bounded call.micros (List.mem_map_of_mem begins))
  · intro ceil within some
    have below := within taken.stats.counts.sum
    have positive : 0 < max (ceil taken.stats.counts.sum) 1 := by omega
    obtain ⟨bound, ranked, enough, few⟩ := rankBound_between buckets_rising bracketed.length
      (fun i inside => (bracketed.bucket few inside).1) (fun i inside => (bracketed.bucket few inside).2)
      positive (by omega)
    refine ⟨bound, ?_, enough, few⟩
    rw [LatencyStats.percentileMicros, isCount, if_neg some, percentileLoop_eq fits, ranked]
    rfl
  · intro small
    obtain ⟨n, above, below, isTotal⟩ := bracketed.total
    rw [isTotal, Nat.mod_eq_of_lt (by omega)]
    exact ⟨above, below⟩

/-- A snapshot while a third call is under way: it loads the counts before the
    call updates them, and the maximum after. -/
def overtaken : List Label :=
  [.record 100, .addCount 0, .addTotal 0, .raiseMax 0, .record 900, .raiseMax 1, .addTotal 1, .addCount 1,
    .snapshot, .record 30001] ++ (List.range 21).map (.loadCount 0 ·)
    ++ [.addCount 2, .addTotal 2, .loadTotal 0, .raiseMax 2, .loadMax 0, .finish 0]

/-- Its percentiles are those of the calls before. -/
theorem overtaken_brackets : ∃ (s : Latencies) (taken : Taken), s.taken = [taken] ∧ taken.stats.count = 2
    ∧ taken.stats.averageMicros = some 15500 ∧ taken.stats.maxMicros ∈ taken.after
    ∧ ∃ bound, taken.stats.percentileMicros id = some (some bound) ∧ 2 ≤ taken.after.countP (· ≤ bound) := by
  have run : ∃ s, System.follow System.Any step ⟨LatencyRecorder.default, [], [], []⟩ overtaken = some s
      ∧ ∃ taken ∈ s.taken, s.taken = [taken] ∧ taken.stats.count = 2 ∧ taken.after.length = 3
        ∧ taken.stats.averageMicros = some 15500 ∧ taken.stats.maxMicros ≠ 0 := by
    decide +kernel
  obtain ⟨s, followed, taken, member, isTaken, isCount, three, average, positive⟩ := run
  have few : taken.after.length < 2 ^ 64 := by omega
  obtain ⟨_, _, _, ranks, _, _, most⟩ := snapshot_brackets (System.reach_of_follow rfl followed) member few
  obtain ⟨bound, ranked, enough, _⟩ := ranks id (fun _ => le_refl _) (by omega)
  rw [isCount] at enough
  exact ⟨s, taken, isTaken, isCount, average, most.resolve_left positive, bound, ranked, enough⟩

end Latencies

end Xkk.Common
