import Mathlib.Algebra.BigOperators.Group.List.Basic
import Mathlib.Algebra.GroupWithZero.Nat
import Mathlib.Data.List.Sort
import Mathlib.Order.Lattice

/-! # Histograms over rising bounds

A histogram counts values by the first bound that is not below them.  It forgets
the values, but not how many of them lie under a bound: `sum_tally`.

`rankBound` looks for a rank in the counts.  Counts that were collected while
values came in agree with no list of values; it is enough that they lie between
the tallies of two lists.
-/

namespace Xkk.Lib.Histogram

variable {α : Type} [LinearOrder α]

/-- How many bounds lie below the value. -/
def bucketOf (bounds : List α) (x : α) : Nat := (bounds.takeWhile (· < x)).length

/-- How many of the values are in bucket `i`. -/
def tally (bounds : List α) (xs : List α) (i : Nat) : Nat := xs.countP (bucketOf bounds · = i)

/-- The first bound with which the counts come up to `rank`; `seen` is what the
    buckets before have counted. -/
def rankBound : List α → List Nat → Nat → Nat → Option α
  | bound :: bounds, count :: counts, rank, seen =>
    if rank ≤ seen + count then some bound else rankBound bounds counts rank (seen + count)
  | _, _, _, _ => none

/-! ## Buckets -/

theorem bucketOf_cons (bound : α) (bounds : List α) (x : α) :
    bucketOf (bound :: bounds) x = if bound < x then bucketOf bounds x + 1 else 0 := by
  by_cases below : bound < x
  · simp [bucketOf, below]
  · simp [bucketOf, below]

/-- A value is in one of the first buckets exactly when the bound of the last of
    them is not below it. -/
theorem bucketOf_le_iff {bounds : List α} (rising : bounds.Pairwise (· < ·)) {i : Nat} {bound : α}
    (found : bounds[i]? = some bound) (x : α) : bucketOf bounds x ≤ i ↔ x ≤ bound := by
  induction bounds generalizing i with
  | nil => simp at found
  | cons first rest ih =>
    obtain ⟨least, rising⟩ := List.pairwise_cons.mp rising
    rw [bucketOf_cons]
    cases i with
    | zero =>
      simp only [List.getElem?_cons_zero, Option.some.injEq] at found
      subst found
      by_cases below : first < x
      · simp [below]
      · simp [below, not_lt.mp below]
    | succ i =>
      by_cases below : first < x
      · rw [if_pos below]
        simpa using ih rising found
      · rw [if_neg below]
        have later : first < bound := least bound (List.mem_of_getElem? found)
        exact iff_of_true (Nat.zero_le _) (le_trans (not_lt.mp below) later.le)

theorem bucketOf_lt {bounds : List α} (rising : bounds.Pairwise (· < ·)) {last : α} (x : α)
    (found : last ∈ bounds) (most : x ≤ last) : bucketOf bounds x < bounds.length := by
  obtain ⟨i, bound⟩ := List.mem_iff_getElem?.mp found
  have early := (bucketOf_le_iff rising bound x).mpr most
  have inside := (List.getElem?_eq_some_iff.mp bound).1
  omega

/-! ## Counting -/

omit [LinearOrder α] in
theorem countP_le_succ (p : α → Nat) (xs : List α) (i : Nat) :
    xs.countP (p · ≤ i + 1) = xs.countP (p · ≤ i) + xs.countP (p · = i + 1) := by
  induction xs with
  | nil => rfl
  | cons x rest ih =>
    simp only [List.countP_cons, ih, decide_eq_true_eq]
    split_ifs <;> omega

/-- The first buckets hold what is not above their last bound. -/
theorem sum_tally {bounds : List α} (rising : bounds.Pairwise (· < ·)) {i : Nat} {bound : α}
    (found : bounds[i]? = some bound) (xs : List α) :
    ((List.range (i + 1)).map (tally bounds xs)).sum = xs.countP (· ≤ bound) := by
  have buckets : ∀ j, ((List.range (j + 1)).map (tally bounds xs)).sum
      = xs.countP (bucketOf bounds · ≤ j) := by
    intro j
    induction j with
    | zero => simp [tally]
    | succ j ih => rw [List.range_succ, List.map_append, List.sum_append, ih, countP_le_succ]; simp [tally]
  rw [buckets i]
  congr 1
  funext x
  exact decide_eq_decide.mpr (bucketOf_le_iff rising found x)

/-! ## Ranks -/

omit [LinearOrder α] in
/-- The search stops where the counts first come up to the rank. -/
theorem rankBound_cases (bounds : List α) (counts : List Nat) (rank seen : Nat)
    (same : bounds.length = counts.length) (some : rank ≤ seen + counts.sum) (missing : seen < rank) :
    ∃ i bound, bounds[i]? = .some bound ∧ rankBound bounds counts rank seen = .some bound
      ∧ rank ≤ seen + (counts.take (i + 1)).sum ∧ ∀ j < i, seen + (counts.take (j + 1)).sum < rank := by
  induction bounds generalizing counts seen with
  | nil =>
    cases counts with
    | nil => simp at some; omega
    | cons count counts => simp at same
  | cons first bounds ih =>
    cases counts with
    | nil => simp at same
    | cons count counts =>
      by_cases reached : rank ≤ seen + count
      · exact ⟨0, first, rfl, by simp [rankBound, reached], by simpa using reached, by simp⟩
      · simp only [List.sum_cons] at some
        obtain ⟨i, bound, found, ranked, enough, few⟩ :=
          ih counts (seen + count) (by simpa using same) (by omega) (by omega)
        refine ⟨i + 1, bound, by simpa using found, ?_, ?_, ?_⟩
        · simpa [rankBound, reached] using ranked
        · simp only [List.take_succ_cons, List.sum_cons] at enough ⊢
          omega
        · intro j early
          cases j with
          | zero => simp; omega
          | succ j =>
            have before := few j (by omega)
            simp only [List.take_succ_cons, List.sum_cons] at before ⊢
            omega

theorem take_map_range {counts : List Nat} {n i : Nat} (length : counts.length = n) (inside : i < n) :
    counts.take (i + 1) = (List.range (i + 1)).map fun j => counts.getD j 0 := by
  apply List.ext_getElem?
  intro j
  by_cases early : j < i + 1
  · have there : j < counts.length := by omega
    simp [early, there]
  · simp [early]

theorem sum_map_le {f g : Nat → Nat} (l : List Nat) (smaller : ∀ i ∈ l, f i ≤ g i) :
    (l.map f).sum ≤ (l.map g).sum := by
  induction l with
  | nil => simp
  | cons i l ih =>
    obtain ⟨first, others⟩ := List.forall_mem_cons.mp smaller
    simpa using Nat.add_le_add first (ih others)

/-- Where the counts lie between the tallies of `before` and `after`, the bound
    of a rank has that many values of `after` under it, and no lower bound has
    that many of `before`. -/
theorem rankBound_between {bounds : List α} (rising : bounds.Pairwise (· < ·)) {counts : List Nat}
    (same : counts.length = bounds.length) {before after : List α}
    (least : ∀ i < bounds.length, tally bounds before i ≤ counts.getD i 0)
    (most : ∀ i < bounds.length, counts.getD i 0 ≤ tally bounds after i)
    {rank : Nat} (positive : 0 < rank) (some : rank ≤ counts.sum) :
    ∃ bound, rankBound bounds counts rank 0 = .some bound ∧ rank ≤ after.countP (· ≤ bound)
      ∧ ∀ lower ∈ bounds, lower < bound → before.countP (· ≤ lower) < rank := by
  obtain ⟨i, bound, found, ranked, enough, few⟩ :=
    rankBound_cases bounds counts rank 0 same.symm (by omega) positive
  have inside := (List.getElem?_eq_some_iff.mp found).1
  refine ⟨bound, ranked, ?_, ?_⟩
  · rw [← sum_tally rising found]
    have counted : ((List.range (i + 1)).map fun j => counts.getD j 0).sum
        ≤ ((List.range (i + 1)).map (tally bounds after)).sum :=
      sum_map_le _ fun j early => most j (by have := List.mem_range.mp early; omega)
    rw [take_map_range same inside] at enough
    omega
  · intro lower known smaller
    obtain ⟨j, lowerFound⟩ := List.mem_iff_getElem?.mp known
    have lowerInside := (List.getElem?_eq_some_iff.mp lowerFound).1
    have earlier : j < i := by
      by_contra later
      have ordered := (bucketOf_le_iff rising lowerFound bound).mp
        (le_trans ((bucketOf_le_iff rising found bound).mpr (le_refl _)) (by omega))
      exact absurd smaller (not_lt.mpr ordered)
    rw [← sum_tally rising lowerFound]
    have counted : ((List.range (j + 1)).map (tally bounds before)).sum
        ≤ ((List.range (j + 1)).map fun k => counts.getD k 0).sum :=
      sum_map_le _ fun k early => least k (by have := List.mem_range.mp early; omega)
    have short := few j earlier
    rw [take_map_range same lowerInside] at short
    omega

/-- Every value is counted once, where none is above the last bound. -/
theorem sum_tally_all {bounds : List α} (rising : bounds.Pairwise (· < ·)) {last : α}
    (found : bounds[bounds.length - 1]? = some last) {xs : List α} (bounded : ∀ x ∈ xs, x ≤ last) :
    ((List.range bounds.length).map (tally bounds xs)).sum = xs.length := by
  have inside := (List.getElem?_eq_some_iff.mp found).1
  rw [show bounds.length = bounds.length - 1 + 1 by omega, sum_tally rising found, List.countP_eq_length]
  simpa using bounded

end Xkk.Lib.Histogram
