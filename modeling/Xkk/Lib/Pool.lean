import Mathlib.Algebra.BigOperators.Group.List.Basic
import Mathlib.Data.List.Nodup
import Mathlib.Tactic.Abel

/-! # Pools of tasks

The tasks of a concurrent system are kept in a list; a task is named by its
position, a new one is appended, and a step replaces one entry.  The lemmas
below say what such a replacement does to lookups, to sums and to counts.
-/

namespace Xkk.Lib.Pool

universe u v

variable {α β : Type u}

theorem lt_length {l : List α} {i : Nat} {a : α} (found : l[i]? = some a) : i < l.length := by
  rcases Nat.lt_or_ge i l.length with inside | outside
  · exact inside
  · rw [List.getElem?_eq_none outside] at found
    cases found

/-- The entry that was replaced is found under its index. -/
theorem get_set_self {l : List α} {i : Nat} {a : α} (b : α) (found : l[i]? = some a) :
    (l.set i b)[i]? = some b := by
  simp [lt_length found]

/-- Every other entry is found unchanged. -/
theorem get_set_ne {l : List α} {i j : Nat} (b : α) (differ : i ≠ j) :
    (l.set i b)[j]? = l[j]? := by
  simp [differ]

/-- Replacing an entry by itself changes nothing. -/
theorem set_self {l : List α} {i : Nat} {a : α} (found : l[i]? = some a) : l.set i a = l := by
  obtain ⟨inside, same⟩ := List.getElem?_eq_some_iff.mp found
  rw [← same]
  exact List.set_getElem_self inside

/-- What is found after a replacement is the new entry or an old one. -/
theorem get_set_cases {l : List α} {i j : Nat} {b c : α} (found : (l.set i b)[j]? = some c) :
    (i = j ∧ c = b) ∨ (i ≠ j ∧ l[j]? = some c) := by
  by_cases same : i = j
  · subst same
    refine .inl ⟨rfl, ?_⟩
    rw [List.getElem?_set_self'] at found
    cases present : l[i]? with
    | none => simp [present] at found
    | some a => simpa [present] using found.symm
  · exact .inr ⟨same, by rwa [get_set_ne b same] at found⟩

/-- What is found after a task was added is the new task or an old one. -/
theorem get_append_cases {l : List α} {j : Nat} {b c : α} (found : (l ++ [b])[j]? = some c) :
    (j = l.length ∧ c = b) ∨ (j < l.length ∧ l[j]? = some c) := by
  rcases Nat.lt_trichotomy j l.length with inside | same | outside
  · exact .inr ⟨inside, by rwa [List.getElem?_append_left inside] at found⟩
  · subst same
    exact .inl ⟨rfl, by simpa using found.symm⟩
  · rw [List.getElem?_eq_none (by simp; omega)] at found
    cases found

theorem get_append_of_some {l : List α} {j : Nat} {c : α} (b : α) (found : l[j]? = some c) :
    (l ++ [b])[j]? = some c := by
  rw [List.getElem?_append_left (lt_length found)]
  exact found

theorem get_append_self (l : List α) (b : α) : (l ++ [b])[l.length]? = some b := by
  simp

/-! ## Sums over a pool -/

section Sums

variable {M : Type v} [AddCommMonoid M]

/-- The weight of the whole pool. -/
def total (weight : α → M) (l : List α) : M := (l.map weight).sum

@[simp] theorem total_nil (weight : α → M) : total weight [] = 0 := rfl

@[simp] theorem total_cons (weight : α → M) (a : α) (l : List α) :
    total weight (a :: l) = weight a + total weight l := by
  simp [total]

@[simp] theorem total_append (weight : α → M) (l m : List α) :
    total weight (l ++ m) = total weight l + total weight m := by
  simp [total]

/-- Replacing an entry exchanges its weight. -/
theorem total_set (weight : α → M) {l : List α} {i : Nat} {a : α} (b : α)
    (found : l[i]? = some a) :
    total weight (l.set i b) + weight a = total weight l + weight b := by
  induction l generalizing i with
  | nil => simp at found
  | cons head tail ih =>
    cases i with
    | zero =>
      simp only [List.getElem?_cons_zero, Option.some.injEq] at found
      subst found
      simp only [List.set_cons_zero, total_cons]
      abel
    | succ i =>
      simp only [List.getElem?_cons_succ] at found
      have rest := ih found
      simp only [List.set_cons_succ, total_cons]
      rw [add_assoc, rest, add_assoc]

end Sums

/-- An entry weighs at most as much as the pool. -/
theorem weight_le_total (weight : α → Nat) {l : List α} {i : Nat} {a : α}
    (found : l[i]? = some a) : weight a ≤ total weight l := by
  induction l generalizing i with
  | nil => simp at found
  | cons head tail ih =>
    cases i with
    | zero =>
      simp only [List.getElem?_cons_zero, Option.some.injEq] at found
      subst found
      simp
    | succ i =>
      simp only [List.getElem?_cons_succ] at found
      have := ih found
      simp only [total_cons]
      omega

/-- Two different entries weigh at most as much as the pool. -/
theorem weights_le_total (weight : α → Nat) {l : List α} {i j : Nat} {a b : α}
    (first : l[i]? = some a) (second : l[j]? = some b) (differ : i ≠ j) :
    weight a + weight b ≤ total weight l := by
  induction l generalizing i j with
  | nil => simp at first
  | cons head tail ih =>
    cases i with
    | zero =>
      cases j with
      | zero => exact absurd rfl differ
      | succ j =>
        simp only [List.getElem?_cons_zero, Option.some.injEq, List.getElem?_cons_succ] at first second
        have rest := weight_le_total weight second
        simp only [total_cons, first]
        omega
    | succ i =>
      cases j with
      | zero =>
        simp only [List.getElem?_cons_zero, Option.some.injEq, List.getElem?_cons_succ] at first second
        have rest := weight_le_total weight first
        simp only [total_cons, second]
        omega
      | succ j =>
        simp only [List.getElem?_cons_succ] at first second
        have rest := ih first second (by omega)
        simp only [total_cons]
        omega

/-- A pool that weighs something has an entry that does. -/
theorem exists_weight {weight : α → Nat} {l : List α} (positive : 0 < total weight l) :
    ∃ (i : Nat) (a : α), l[i]? = some a ∧ 0 < weight a := by
  induction l with
  | nil => simp at positive
  | cons head tail ih =>
    by_cases here : 0 < weight head
    · exact ⟨0, head, rfl, here⟩
    · have rest : 0 < total weight tail := by
        simp only [total_cons] at positive
        omega
      obtain ⟨i, a, found, weighs⟩ := ih rest
      exact ⟨i + 1, a, by simpa using found, weighs⟩

/-- A weight that is pointwise at most another one has the smaller total. -/
theorem total_le_total {weight weight' : α → Nat} (l : List α)
    (le : ∀ a, weight a ≤ weight' a) : total weight l ≤ total weight' l := by
  induction l with
  | nil => simp
  | cons head tail ih =>
    have := le head
    simp only [total_cons]
    omega

/-! ## Entries by their place -/

/-- The entries that a test on entry and place picks. -/
def pick (test : α → Nat → Bool) (l : List α) : List α :=
  (l.zipIdx.filter fun entry => test entry.1 entry.2).map Prod.fst

theorem mem_pick {test : α → Nat → Bool} {l : List α} {a : α} :
    a ∈ pick test l ↔ ∃ i : Nat, l[i]? = some a ∧ test a i = true := by
  simp only [pick, List.mem_map, List.mem_filter, List.mem_zipIdx_iff_getElem?]
  constructor
  · intro picked
    obtain ⟨entry, ⟨there, isPicked⟩, same⟩ := picked
    subst same
    exact ⟨entry.2, there, isPicked⟩
  · intro found
    obtain ⟨i, there, isPicked⟩ := found
    exact ⟨(a, i), ⟨there, isPicked⟩, rfl⟩

/-- Entries that weigh nothing need not be picked. -/
theorem total_pick {weight : α → Nat} {test : α → Nat → Bool} {l : List α}
    (light : ∀ (i : Nat) a, l[i]? = some a → test a i = false → weight a = 0) :
    total weight (pick test l) = total weight l := by
  have filtered : ∀ k : List (α × Nat), (∀ entry ∈ k, l[entry.2]? = some entry.1) →
      total weight ((k.filter fun entry => test entry.1 entry.2).map Prod.fst)
        = total weight (k.map Prod.fst) := by
    intro k entries
    induction k with
    | nil => rfl
    | cons head tail ih =>
      have rest := ih (fun entry member => entries entry (List.mem_cons_of_mem head member))
      cases picked : test head.1 head.2 with
      | true => simp only [List.filter_cons, picked, if_true, List.map_cons, total_cons, rest]
      | false =>
        have zero := light head.2 head.1 (entries head List.mem_cons_self) picked
        simp only [List.filter_cons, picked, Bool.false_eq_true, if_false, List.map_cons, total_cons,
          rest, zero, Nat.zero_add]
  have all := filtered l.zipIdx (fun entry member => List.mem_zipIdx_iff_getElem?.mp member)
  rw [List.zipIdx_map_fst] at all
  exact all

theorem nodup_zipIdx (l : List α) : l.zipIdx.Nodup := by
  apply List.Nodup.of_map Prod.snd
  rw [List.zipIdx_map_snd]
  exact List.nodup_range'

/-- Picked entries with different places have different keys. -/
theorem nodup_pick {β : Type v} {key : α → β} {test : α → Nat → Bool} {l : List α}
    (apart : ∀ (i j : Nat) a b, l[i]? = some a → l[j]? = some b → test a i = true → test b j = true →
      key a = key b → i = j) : ((pick test l).map key).Nodup := by
  simp only [pick, List.map_map]
  refine List.Nodup.map_on ?_ ((nodup_zipIdx l).filter _)
  intro first isFirst second isSecond same
  rw [List.mem_filter, List.mem_zipIdx_iff_getElem?] at isFirst isSecond
  have place := apart first.2 second.2 first.1 second.1 isFirst.1 isSecond.1 isFirst.2 isSecond.2 same
  have entry := isFirst.1
  rw [place, isSecond.1] at entry
  exact Prod.ext (Option.some.inj entry).symm place

/-- Different places of entries that count are at most as many as the entries that count. -/
theorem length_le_countP {counts : α → Bool} {l : List α} {places : List Nat} (nodup : places.Nodup)
    (counted : ∀ i ∈ places, ∃ a, l[i]? = some a ∧ counts a = true) :
    places.length ≤ l.countP counts := by
  have within : places ⊆ (l.zipIdx.filter fun entry => counts entry.1).map Prod.snd := by
    intro i member
    obtain ⟨a, there, isCounted⟩ := counted i member
    rw [List.mem_map]
    exact ⟨(a, i), List.mem_filter.mpr ⟨List.mem_zipIdx_iff_getElem?.mpr there, isCounted⟩, rfl⟩
  calc places.length
      ≤ ((l.zipIdx.filter fun entry => counts entry.1).map Prod.snd).length :=
        (List.subperm_of_subset nodup within).length_le
    _ = l.zipIdx.countP (fun entry => counts entry.1) := by
        rw [List.length_map, List.countP_eq_length_filter]
    _ = (l.zipIdx.map Prod.fst).countP counts := by rw [List.countP_map]; rfl
    _ = l.countP counts := by rw [List.zipIdx_map_fst]

/-! ## Counting by keys -/

theorem total_add (weight weight' : α → Nat) (l : List α) :
    total (fun a => weight a + weight' a) l = total weight l + total weight' l :=
  List.sum_map_add

theorem total_congr {weight weight' : α → Nat} {l : List α} (same : ∀ a ∈ l, weight a = weight' a) :
    total weight l = total weight' l := by
  rw [total, List.map_congr_left same, total]

theorem total_one (l : List α) : total (fun _ => 1) l = l.length := by
  simp [total]

/-- A key is counted once among different keys. -/
theorem total_key {β : Type v} [DecidableEq β] {key : β} {keys : List β} (nodup : keys.Nodup)
    (member : key ∈ keys) : total (fun k => if key = k then 1 else 0) keys = 1 := by
  induction keys with
  | nil => cases member
  | cons head tail ih =>
    rw [List.nodup_cons] at nodup
    cases List.mem_cons.mp member with
    | inl here =>
      subst here
      have none : total (fun k => if key = k then 1 else 0) tail = total (fun _ => 0) tail := by
        apply total_congr
        intro k isTail
        rw [if_neg]
        intro same
        exact nodup.1 (same ▸ isTail)
      rw [total_cons, if_pos rfl, none]
      simp [total]
    | inr later =>
      have differ : key ≠ head := by
        intro same
        exact nodup.1 (same ▸ later)
      rw [total_cons, if_neg differ, ih nodup.2 later]

/-- Counting the entries of each key counts every entry once. -/
theorem total_keys {β : Type v} [DecidableEq β] {key : α → β} {counts : α → Bool} {keys : List β}
    {l : List α} (nodup : keys.Nodup) (known : ∀ a ∈ l, counts a = true → key a ∈ keys) :
    total (fun k => total (fun a => if counts a = true ∧ key a = k then 1 else 0) l) keys
      = total (fun a => (counts a).toNat) l := by
  induction l with
  | nil => simp [total]
  | cons head tail ih =>
    have rest := ih (fun a member => known a (List.mem_cons_of_mem head member))
    simp only [total_cons, total_add, rest]
    congr 1
    cases isCounted : counts head with
    | false => simp [total]
    | true =>
      have once := total_key nodup (known head List.mem_cons_self isCounted)
      simp only [true_and, Bool.toNat_true]
      exact once

/-- Only one entry contributes. -/
theorem flatMap_single {β : Type v} {f : α → List β} {l : List α} {i : Nat} {a : α}
    (found : l[i]? = some a) (others : ∀ (j : Nat) b, l[j]? = some b → i ≠ j → f b = []) :
    l.flatMap f = f a := by
  induction l generalizing i with
  | nil => simp at found
  | cons head tail ih =>
    cases i with
    | zero =>
      simp only [List.getElem?_cons_zero, Option.some.injEq] at found
      subst found
      have none : tail.flatMap f = [] := by
        rw [List.flatMap_eq_nil_iff]
        intro b member
        obtain ⟨j, there⟩ := List.mem_iff_getElem?.mp member
        exact others (j + 1) b (by simpa using there) (by omega)
      rw [List.flatMap_cons, none, List.append_nil]
    | succ i =>
      simp only [List.getElem?_cons_succ] at found
      have rest := ih found (fun j b there differ => others (j + 1) b (by simpa using there) (by omega))
      rw [List.flatMap_cons, others 0 head rfl (by omega), rest, List.nil_append]

end Xkk.Lib.Pool
