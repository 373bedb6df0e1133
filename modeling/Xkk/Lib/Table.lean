import Mathlib.Algebra.BigOperators.Group.List.Basic
import Mathlib.Data.List.AList
import Mathlib.Tactic.Abel

/-! # Sums over a table

A hash map is an association list without duplicate keys.  Quantities that are
spread over its entries are sums, and each operation on the map changes the sum
by the weight of the entry that it touches.
-/

namespace Xkk.Lib.Table

universe u v

variable {α β : Type u} {M : Type v} [AddCommMonoid M]

abbrev Map (α β : Type u) := AList fun _ : α => β

def total (weight : α → β → M) (t : Map α β) : M :=
  (t.entries.map fun e => weight e.1 e.2).sum

@[simp] theorem total_empty (weight : α → β → M) : total weight ∅ = 0 := rfl

variable [DecidableEq α]

/-- Removing an entry takes away its weight. -/
theorem total_erase (weight : α → β → M) {t : Map α β} {a : α} {b : β}
    (found : t.lookup a = some b) : total weight t = weight a b + total weight (t.erase a) := by
  have member : a ∈ t.entries.keys := AList.lookup_isSome.mp (by rw [found]; rfl)
  obtain ⟨c, front, rest, _, split, erased⟩ := List.exists_of_kerase member
  have same : c = b := by
    have here : (⟨a, c⟩ : Sigma fun _ : α => β) ∈ t.entries := by rw [split]; simp
    have looked := AList.mem_lookup_iff.mpr here
    rw [found] at looked
    exact (Option.some.inj looked).symm
  change (t.entries.map _).sum = weight a b + ((t.entries.kerase a).map _).sum
  rw [erased, split, same]
  simp only [List.map_append, List.map_cons, List.sum_append, List.sum_cons]
  rw [add_left_comm]

theorem erase_of_none {t : Map α β} {a : α} (missing : t.lookup a = none) : t.erase a = t := by
  apply AList.ext
  exact List.kerase_of_notMem_keys (AList.lookup_eq_none.mp missing)

theorem total_insert (weight : α → β → M) (t : Map α β) (a : α) (b : β) :
    total weight (t.insert a b) = weight a b + total weight (t.erase a) := by
  simp only [total, AList.entries_insert, List.map_cons, List.sum_cons]
  rfl

/-- Two weights that agree on the entries have the same total. -/
theorem total_congr {weight weight' : α → β → M} {t : Map α β}
    (agree : ∀ a b, t.lookup a = some b → weight a b = weight' a b) :
    total weight t = total weight' t := by
  refine congrArg List.sum (List.map_congr_left ?_)
  intro e member
  exact agree e.1 e.2 (AList.mem_lookup_iff.mpr member)

/-- A weight that changes at one key changes the total by as much. -/
theorem total_change (weight weight' : α → β → M) {t : Map α β} {a : α} {b : β}
    (found : t.lookup a = some b)
    (agree : ∀ c d, c ≠ a → t.lookup c = some d → weight' c d = weight c d) :
    total weight' t + weight a b = total weight t + weight' a b := by
  have rest : total weight' (t.erase a) = total weight (t.erase a) := by
    apply total_congr
    intro c d there
    have differ : c ≠ a := by
      rintro rfl
      rw [AList.lookup_erase] at there
      cases there
    rw [AList.lookup_erase_ne differ] at there
    exact agree c d differ there
  rw [total_erase weight found, total_erase weight' found, rest]
  abel

/-- `HashMap::retain`. -/
def retain (keep : α → β → Bool) (t : Map α β) : Map α β where
  entries := t.entries.filter fun e => keep e.1 e.2
  nodupKeys := List.NodupKeys.sublist List.filter_sublist t.nodupKeys

theorem lookup_retain {keep : α → β → Bool} {t : Map α β} {a : α} {b : β} :
    (retain keep t).lookup a = some b ↔ t.lookup a = some b ∧ keep a b = true := by
  have left : b ∈ (retain keep t).lookup a ↔ _ := AList.mem_lookup_iff
  have right : b ∈ t.lookup a ↔ _ := AList.mem_lookup_iff
  rw [Option.mem_def] at left right
  rw [left, right]
  exact List.mem_filter

/-- Dropping entries that weigh nothing changes nothing. -/
theorem total_retain {weight : α → β → M} {keep : α → β → Bool} {t : Map α β}
    (weightless : ∀ a b, t.lookup a = some b → keep a b = false → weight a b = 0) :
    total weight (retain keep t) = total weight t := by
  have general : ∀ l : List (Sigma fun _ : α => β),
      (∀ e ∈ l, keep e.1 e.2 = false → weight e.1 e.2 = 0) →
      ((l.filter fun e => keep e.1 e.2).map fun e => weight e.1 e.2).sum =
        (l.map fun e => weight e.1 e.2).sum := by
    intro l
    induction l with
    | nil => intro _; rfl
    | cons e rest ih =>
      intro zero
      have tail := ih fun e' member => zero e' (List.mem_cons_of_mem _ member)
      cases test : keep e.1 e.2 with
      | true => simp [test, tail]
      | false => simp [test, tail, zero e List.mem_cons_self test]
  exact general t.entries fun e member => weightless e.1 e.2 (AList.mem_lookup_iff.mpr member)

end Xkk.Lib.Table
