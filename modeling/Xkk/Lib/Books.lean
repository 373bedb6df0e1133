import Mathlib.Algebra.Order.Group.Multiset
import Mathlib.Tactic.Abel
import Xkk.Lib.Pool

/-! # Counters that are updated late

A set of members is kept in one place and counted in another.  Tasks change the
members first and the counter later, so in between they owe it an increment or a
decrement.  The books are kept by key: what is owed and what was counted on one
side, the members and what has to be taken off on the other.

The counter may be clamped at zero, so a decrement must find its key counted:
that is so unless an increment for the same key is still owed.
-/

namespace Xkk.Lib.Books

universe u v

variable {α : Type u} {K : Type v} {up down : α → Multiset K}

def Balanced (up down : α → Multiset K) (tasks : List α) (members : Multiset K) (count : Int) : Prop :=
  ∃ counted : Multiset K, Pool.total up tasks + counted = members + Pool.total down tasks ∧ count = counted.card

variable {tasks : List α} {members : Multiset K} {count : Int}

theorem Balanced.empty : Balanced up down [] 0 0 := ⟨0, rfl, rfl⟩

/-- A task moves on: what it comes to owe must match what it did to the members. -/
theorem Balanced.move (balanced : Balanced up down tasks members count) {i : Nat} {task next : α}
    (found : tasks[i]? = some task) {after : Multiset K}
    (exchange : up next + down task + members = up task + down next + after) :
    Balanced up down (tasks.set i next) after count := by
  obtain ⟨counted, books, same⟩ := balanced
  refine ⟨counted, ?_, same⟩
  have ups := Pool.total_set up next found
  have downs := Pool.total_set down next found
  apply add_right_cancel (b := up task + down task)
  calc Pool.total up (tasks.set i next) + counted + (up task + down task)
      = (Pool.total up (tasks.set i next) + up task) + counted + down task := by abel
    _ = (Pool.total up tasks + counted) + (up next + down task) := by rw [ups]; abel
    _ = (up next + down task + members) + Pool.total down tasks := by rw [books]; abel
    _ = after + up task + (Pool.total down tasks + down next) := by rw [exchange]; abel
    _ = after + Pool.total down (tasks.set i next) + (up task + down task) := by rw [← downs]; abel

theorem Balanced.spawn (balanced : Balanced up down tasks members count) {task : α} {after : Multiset K}
    (exchange : up task + members = down task + after) : Balanced up down (tasks ++ [task]) after count := by
  obtain ⟨counted, books, same⟩ := balanced
  refine ⟨counted, ?_, same⟩
  simp only [Pool.total_append, Pool.total_cons, Pool.total_nil, add_zero]
  calc Pool.total up tasks + up task + counted
      = (Pool.total up tasks + counted) + up task := by abel
    _ = (up task + members) + Pool.total down tasks := by rw [books]; abel
    _ = after + (Pool.total down tasks + down task) := by rw [exchange]; abel

/-- The increment that a task owes is made. -/
theorem Balanced.increment (balanced : Balanced up down tasks members count) {i : Nat} {task next : α} {k : K}
    (found : tasks[i]? = some task) (owes : up task = {k}) (paid : up next = 0) (same : down next = down task) :
    Balanced up down (tasks.set i next) members (count + 1) := by
  obtain ⟨counted, books, isCard⟩ := balanced
  have ups := Pool.total_set up next found
  have downs := Pool.total_set down next found
  rw [owes, paid, add_zero] at ups
  rw [same] at downs
  refine ⟨{k} + counted, ?_, ?_⟩
  · rw [← add_assoc, ups, books, add_right_cancel downs]
  · rw [isCard, Multiset.card_add, Multiset.card_singleton]
    omega

/-- Whatever a pool owes, one of its tasks owes. -/
theorem exists_owing {owes : α → Multiset K} {k : K} (member : k ∈ Pool.total owes tasks) :
    ∃ task ∈ tasks, k ∈ owes task := by
  induction tasks with
  | nil => cases member
  | cons head tail ih =>
    rw [Pool.total_cons] at member
    cases Multiset.mem_add.mp member with
    | inl here => exact ⟨head, List.mem_cons_self, here⟩
    | inr there =>
      obtain ⟨task, isTask, owes⟩ := ih there
      exact ⟨task, List.mem_cons_of_mem _ isTask, owes⟩

/-- The decrement that a task owes is made.  No task owes an increment for its key,
    so the key is counted and the counter is positive. -/
theorem Balanced.decrement (balanced : Balanced up down tasks members count) {i : Nat} {task next : α} {k : K}
    (found : tasks[i]? = some task) (owes : down task = {k}) (paid : down next = 0) (same : up next = up task)
    (absent : ∀ task ∈ tasks, k ∉ up task) :
    0 < count ∧ Balanced up down (tasks.set i next) members (count - 1) := by
  obtain ⟨counted, books, isCard⟩ := balanced
  have ups := Pool.total_set up next found
  have downs := Pool.total_set down next found
  rw [same] at ups
  rw [owes, paid, add_zero] at downs
  have isCounted : k ∈ counted := by
    have both : k ∈ Pool.total up tasks + counted := by
      rw [books, ← downs]
      simp
    cases Multiset.mem_add.mp both with
    | inl outstanding =>
      obtain ⟨task, isTask, owed⟩ := exists_owing outstanding
      exact absurd owed (absent task isTask)
    | inr isCounted => exact isCounted
  obtain ⟨rest, rfl⟩ := Multiset.exists_cons_of_mem isCounted
  rw [Multiset.card_cons] at isCard
  refine ⟨by omega, rest, ?_, by omega⟩
  apply add_right_cancel (b := ({k} : Multiset K))
  rw [add_right_cancel ups, add_assoc, add_assoc, downs, add_comm rest, Multiset.singleton_add]
  exact books

/-- Where nothing is owed, the counter is the number of members. -/
theorem Balanced.settled (balanced : Balanced up down tasks members count)
    (paid : ∀ task ∈ tasks, up task = 0 ∧ down task = 0) : count = members.card := by
  obtain ⟨counted, books, isCard⟩ := balanced
  have nothing : ∀ owes : α → Multiset K, (∀ task ∈ tasks, owes task = 0) → Pool.total owes tasks = 0 := by
    intro owes none
    apply List.sum_eq_zero
    intro share isShare
    obtain ⟨task, isTask, rfl⟩ := List.mem_map.mp isShare
    exact none task isTask
  rw [nothing up fun task isTask => (paid task isTask).1, nothing down fun task isTask => (paid task isTask).2,
    zero_add, add_zero] at books
  rw [isCard, books]

end Xkk.Lib.Books
