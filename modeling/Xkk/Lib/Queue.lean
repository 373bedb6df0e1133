import Mathlib.Data.List.Pairwise
import Mathlib.Data.List.TakeWhile

/-! # Queues that lose a prefix

A queue whose entries are ordered loses its oldest entries in a loop that pops
the front while a test holds.  When the test can only turn from true to false
along the queue, the loop removes exactly the entries that meet it.
-/

namespace Xkk.Lib.Queue

universe u v

variable {α : Type u} {β : Type v}

/-- The test holds of a prefix of the queue. -/
def Falling (p : α → Bool) (l : List α) : Prop :=
  l.Pairwise fun a b => p b = true → p a = true

theorem dropWhile_congr {p q : α → Bool} {l : List α} (agree : ∀ a ∈ l, p a = q a) :
    l.dropWhile p = l.dropWhile q := by
  induction l with
  | nil => rfl
  | cons head tail ih =>
    have rest := ih fun a member => agree a (List.mem_cons_of_mem _ member)
    have here := agree head List.mem_cons_self
    cases test : q head with
    | true =>
      rw [List.dropWhile_cons_of_pos (here.trans test), List.dropWhile_cons_of_pos test, rest]
    | false => rw [List.dropWhile_cons_of_neg (by simp [here, test]),
        List.dropWhile_cons_of_neg (by simp [test])]

theorem takeWhile_congr {p q : α → Bool} {l : List α} (agree : ∀ a ∈ l, p a = q a) :
    l.takeWhile p = l.takeWhile q := by
  induction l with
  | nil => rfl
  | cons head tail ih =>
    have rest := ih fun a member => agree a (List.mem_cons_of_mem _ member)
    rw [List.takeWhile_cons, List.takeWhile_cons, agree head List.mem_cons_self, rest]

theorem dropWhile_eq_filter {p : α → Bool} {l : List α} (falling : Falling p l) :
    l.dropWhile p = l.filter fun a => !p a := by
  induction l with
  | nil => rfl
  | cons head tail ih =>
    obtain ⟨here, rest⟩ := List.pairwise_cons.mp falling
    cases test : p head with
    | true => rw [List.dropWhile_cons_of_pos test, ih rest]; simp [test]
    | false =>
      have none : ∀ a ∈ tail, p a = false := by
        intro a member
        by_contra holds
        rw [here a member (by simpa using holds)] at test
        cases test
      rw [List.dropWhile_cons_of_neg (by simp [test])]
      rw [List.filter_eq_self.mpr]
      intro a member
      rcases List.mem_cons.mp member with rfl | member
      · simp [test]
      · simp [none a member]

/-- Counting back from the newest entry finds the entries past the prefix. -/
theorem takeWhile_reverse {p : α → Bool} {l : List α} (falling : Falling (fun a => !p a) l) :
    l.reverse.takeWhile p = (l.filter p).reverse := by
  induction l with
  | nil => rfl
  | cons head tail ih =>
    obtain ⟨here, rest⟩ := List.pairwise_cons.mp falling
    rw [List.reverse_cons, List.takeWhile_append, ih rest]
    cases test : p head with
    | true =>
      have all : ∀ a ∈ tail, p a = true := by
        intro a member
        by_contra fails
        have earlier := here a member (by simpa using fails)
        simp [test] at earlier
      rw [List.filter_eq_self.mpr all]
      simp [test, List.filter_eq_self.mpr all]
    | false =>
      simp only [test, List.filter_cons_of_neg, Bool.false_eq_true, not_false_eq_true,
        List.takeWhile_cons_of_neg, List.append_nil]
      split
      · next full =>
        have all : tail.filter p = tail := by
          rw [List.length_reverse, List.length_reverse] at full
          exact List.filter_eq_self.mpr (List.length_filter_eq_length_iff.mp full)
        rw [all]
      · rfl

/-- Two queues with the same entries under `f` lose equally many to a test on
    the entries. -/
theorem missing_eq {f : α → β} {p : β → Bool} (l : List α) :
    (l.map f).length - ((l.map f).dropWhile p).length = (l.takeWhile (p ∘ f)).length := by
  have split := congrArg List.length (List.takeWhile_append_dropWhile (p := p ∘ f) (l := l))
  rw [List.length_append] at split
  rw [List.dropWhile_map, List.length_map, List.length_map]
  omega

theorem take_missing {p : α → Bool} (l : List α) :
    l.take (l.takeWhile p).length = l.takeWhile p :=
  (List.prefix_iff_eq_take.mp (List.takeWhile_prefix p)).symm

theorem drop_missing {p : α → Bool} (l : List α) :
    l.drop (l.takeWhile p).length = l.dropWhile p := by
  calc l.drop (l.takeWhile p).length
      = (l.takeWhile p ++ l.dropWhile p).drop (l.takeWhile p).length := by
        rw [List.takeWhile_append_dropWhile]
    _ = l.dropWhile p := List.drop_left

/-- The last entry that was popped is the largest. -/
theorem le_getLast {r : α → α → Prop} {l : List α} {last : α} (sorted : l.Pairwise r)
    (found : l.getLast? = some last) : ∀ a ∈ l, a = last ∨ r a last := by
  obtain ⟨initial, rfl⟩ := List.getLast?_eq_some_iff.mp found
  intro a member
  rcases List.mem_append.mp member with before | same
  · exact .inr ((List.pairwise_append.mp sorted).2.2 a before last (by simp))
  · exact .inl (by simpa using same)

end Xkk.Lib.Queue
