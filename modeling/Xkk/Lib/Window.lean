import Xkk.Lib.Queue

/-! # Sliding windows

A limiter that allows `limit` events in every interval of length `window`.  The
reference keeps the times of all events it has granted; an implementation keeps
a queue and pops from its front what is too old.  Times are natural numbers and
never go back.
-/

namespace Xkk.Lib.Window

/-- The events that are less than `window` old. -/
def recent (now window : Nat) (times : List Nat) : List Nat :=
  times.filter fun time => now - time < window

/-- The events in the half-open interval `[start, start + window)`. -/
def within (start window : Nat) (times : List Nat) : List Nat :=
  times.filter fun time => start ≤ time ∧ time < start + window

/-- No interval of length `window` has more than `limit` events. -/
def Limited (window limit : Nat) (times : List Nat) : Prop :=
  ∀ start, (within start window times).length ≤ limit

/-- The times never go back, and none is later than `now`. -/
structure Ordered (now : Nat) (times : List Nat) : Prop where
  sorted : times.Pairwise (· ≤ ·)
  past : ∀ time ∈ times, time ≤ now

theorem Ordered.nil (now : Nat) : Ordered now [] := ⟨.nil, by simp⟩

section

variable {now next window limit : Nat} {times : List Nat}

theorem Ordered.later (ordered : Ordered now times) (after : now ≤ next) : Ordered next times :=
  ⟨ordered.sorted, fun time member => Nat.le_trans (ordered.past time member) after⟩

theorem Ordered.append (ordered : Ordered now times) : Ordered now (times ++ [now]) where
  sorted := by
    refine List.pairwise_append.mpr ⟨ordered.sorted, List.pairwise_singleton .., ?_⟩
    intro time member last isLast
    rw [List.mem_singleton.mp isLast]
    exact ordered.past time member
  past := by
    intro time member
    cases List.mem_append.mp member with
    | inl before => exact ordered.past time before
    | inr last => exact Nat.le_of_eq (List.mem_singleton.mp last)

theorem Ordered.recent (ordered : Ordered now times) (at_ window : Nat) :
    Ordered now (recent at_ window times) where
  sorted := ordered.sorted.filter _
  past := fun time member => ordered.past time (List.mem_filter.mp member).1

/-- Being too old holds of a prefix. -/
theorem Ordered.falling (ordered : Ordered now times) (at_ window : Nat) :
    Queue.Falling (fun time => decide (at_ - time ≥ window)) times := by
  refine ordered.sorted.imp ?_
  intro earlier time le old
  simp only [decide_eq_true_eq] at old ⊢
  omega

/-- Popping what is too old from the front leaves the recent events. -/
theorem dropWhile_eq_recent (ordered : Ordered now times) (at_ window : Nat) :
    times.dropWhile (fun time => decide (at_ - time ≥ window)) = recent at_ window times := by
  rw [Queue.dropWhile_eq_filter (ordered.falling at_ window)]
  refine List.filter_congr ?_
  intro time _
  rw [← decide_not]
  simp only [Nat.not_le]

/-- Counting back to the first event that is too old counts the recent events. -/
theorem length_takeWhile_reverse (ordered : Ordered now times) (at_ window : Nat) :
    (times.reverse.takeWhile fun time => decide (at_ - time < window)).length =
      (recent at_ window times).length := by
  rw [Queue.takeWhile_reverse, List.length_reverse, recent]
  refine (ordered.falling at_ window).imp ?_
  intro earlier time older
  simpa using older

/-- An event that was too old once stays so. -/
theorem recent_recent {shorter : Nat} (after : now ≤ next) (less : shorter ≤ window) :
    recent next shorter (recent now window times) = recent next shorter times := by
  rw [recent, recent, List.filter_filter]
  refine List.filter_congr ?_
  intro time _
  rw [← Bool.decide_and]
  refine decide_eq_decide.mpr ⟨And.left, ?_⟩
  intro fresh
  exact ⟨fresh, by omega⟩

theorem limited_nil (window limit : Nat) : Limited window limit [] := by
  intro start
  exact Nat.zero_le _

/-- Granting an event keeps the limit when it has room among the recent ones. -/
theorem Limited.append (limited : Limited window limit times)
    (room : (recent now window times).length < limit) : Limited window limit (times ++ [now]) := by
  intro start
  rw [within, List.filter_append, List.length_append]
  by_cases inside : start ≤ now ∧ now < start + window
  · -- what is in the interval together with `now` is recent
    have fewer : (within start window times).length ≤ (recent now window times).length := by
      rw [within, recent, ← List.countP_eq_length_filter, ← List.countP_eq_length_filter]
      refine List.countP_mono_left ?_
      intro time _ held
      simp only [decide_eq_true_eq] at held ⊢
      omega
    have one : ([now].filter fun time => decide (start ≤ time ∧ time < start + window)).length = 1 := by
      simp [inside]
    rw [one]
    exact Nat.lt_of_le_of_lt fewer room
  · have none : ([now].filter fun time => decide (start ≤ time ∧ time < start + window)).length = 0 := by
      simp [inside]
    rw [none]
    exact limited start

/-- The recent events and one at `now` lie in one interval, so the limit leaves room
    for it only when they are fewer. -/
theorem Limited.room (limited : Limited window limit (times ++ [now])) (ordered : Ordered now times)
    (positive : 0 < window) : (recent now window times).length < limit := by
  have same : within (now + 1 - window) window (times ++ [now]) = recent now window times ++ [now] := by
    rw [within, recent, List.filter_append]
    congr 1
    · refine List.filter_congr ?_
      intro time member
      have past := ordered.past time member
      refine decide_eq_decide.mpr ⟨?_, ?_⟩
      · intro inside
        omega
      · intro fresh
        omega
    · refine List.filter_eq_self.mpr ?_
      intro time isNow
      rw [List.mem_singleton.mp isNow, decide_eq_true_eq]
      omega
  have most := limited (now + 1 - window)
  rw [same, List.length_append, List.length_singleton] at most
  exact most

end

end Xkk.Lib.Window
