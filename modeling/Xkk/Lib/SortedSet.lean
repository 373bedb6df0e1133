import Mathlib.Data.List.AList
import Mathlib.Order.Lattice
import Xkk.Lib.Table

/-! # Sorted sets

A set of members, each with a score.  The rank of a member is the number of those
with a smaller score, or with the same score and a smaller name.
-/

namespace Xkk.Lib.SortedSet

universe u v

variable {α σ : Type u} {τ : Type v} [DecidableEq α]

/-- The scores of the members. -/
abbrev Scores (α σ : Type u) := Table.Map α σ

/-- Add a member unless it is there. -/
def addNew (t : Scores α σ) (a : α) (score : σ) : Scores α σ :=
  match t.lookup a with
  | some _ => t
  | none => t.insert a score

section

variable {t : Scores α σ} {a b : α} {score score' : σ}

theorem lookup_addNew_of_some (found : t.lookup a = some score) (b : α) (score' : σ) :
    (addNew t b score').lookup a = some score := by
  unfold addNew
  cases there : t.lookup b with
  | some other => exact found
  | none =>
    have differ : a ≠ b := by
      rintro rfl
      rw [found] at there
      cases there
    rw [AList.lookup_insert_ne differ]
    exact found

theorem lookup_addNew_self (missing : t.lookup a = none) : (addNew t a score).lookup a = some score := by
  unfold addNew
  simp only [missing, AList.lookup_insert]

/-- What is in the set after `addNew` was there or is the new member. -/
theorem lookup_addNew_cases (found : (addNew t b score').lookup a = some score) :
    t.lookup a = some score ∨ (a = b ∧ score = score') := by
  unfold addNew at found
  cases there : t.lookup b with
  | some other =>
    simp only [there] at found
    exact .inl found
  | none =>
    simp only [there] at found
    by_cases same : a = b
    · subst same
      rw [AList.lookup_insert] at found
      exact .inr ⟨rfl, (Option.some.inj found).symm⟩
    · rw [AList.lookup_insert_ne same] at found
      exact .inl found

end

variable [LinearOrder σ] [Preorder τ] [DecidableLT τ]

/-- Remove the members whose score is at most `bound`. -/
def removeUpTo (t : Scores α σ) (bound : σ) : Scores α σ :=
  Table.retain (fun _ score => decide (bound < score)) t

def before (name : α → τ) (a : α) (score : σ) (b : α) (score' : σ) : Bool :=
  score < score' || (score = score' && name a < name b)

def rank (name : α → τ) (t : Scores α σ) (a : α) : Option Nat :=
  (t.lookup a).map fun score => t.entries.countP fun e => before name e.1 e.2 a score

variable {t : Scores α σ} {a b : α} {score score' bound : σ}

theorem lookup_removeUpTo :
    (removeUpTo t bound).lookup a = some score ↔ t.lookup a = some score ∧ bound < score := by
  unfold removeUpTo
  rw [Table.lookup_retain, decide_eq_true_iff]

/-- The member with the smaller score has the smaller rank. -/
theorem rank_lt_rank (name : α → τ) (first : t.lookup a = some score) (second : t.lookup b = some score')
    (less : score < score') {m n : Nat} (rankFirst : rank name t a = some m)
    (rankSecond : rank name t b = some n) : m < n := by
  simp only [rank, first, second, Option.map_some, Option.some.injEq] at rankFirst rankSecond
  subst rankFirst rankSecond
  have member : (⟨a, score⟩ : Sigma fun _ : α => σ) ∈ t.entries := AList.mem_lookup_iff.mp first
  obtain ⟨front, rest, split⟩ := List.append_of_mem member
  have more : ∀ e : Sigma fun _ : α => σ, before name e.1 e.2 a score = true →
      before name e.1 e.2 b score' = true := by
    intro e earlier
    simp only [before, Bool.or_eq_true, decide_eq_true_eq, Bool.and_eq_true] at earlier ⊢
    cases earlier with
    | inl smaller => exact .inl (smaller.trans less)
    | inr tie => exact .inl (tie.1 ▸ less)
  have front_le := List.countP_mono_left (l := front) fun e _ => more e
  have rest_le := List.countP_mono_left (l := rest) fun e _ => more e
  -- the first member comes before the second, and not before itself
  have counted : before name a score b score' = true := by simp [before, less]
  have itself : before name a score a score = false := by simp [before]
  simp only [split, List.countP_append, List.countP_cons, counted, itself, if_true, Bool.false_eq_true,
    if_false]
  omega

end Xkk.Lib.SortedSet
