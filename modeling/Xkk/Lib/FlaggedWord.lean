import Mathlib.Data.Nat.Bitwise

/-! # A flag and a count packed in one 64-bit word

The top bit of the word is a flag, the low 63 bits are a count.  The lemmas
split each machine operation on the word into what it does to the two parts;
addition and subtraction wrap, so each of them needs room in the count.
-/

namespace Xkk.Lib.FlaggedWord

/-- The word in which only the flag is set. -/
def flagBit : UInt64 := (1 : UInt64) <<< (63 : UInt64)

/-- The bits of the count. -/
def countMask : UInt64 := flagBit - 1

/-- The flag of a word. -/
def flagged (word : UInt64) : Bool := word &&& flagBit != 0

/-- The count of a word. -/
def count (word : UInt64) : Nat := (word &&& countMask).toNat

theorem flagBit_toNat : flagBit.toNat = 2 ^ 63 := by decide

theorem countMask_toNat : countMask.toNat = 2 ^ 63 - 1 := by decide

theorem count_eq_mod (word : UInt64) : count word = word.toNat % 2 ^ 63 := by
  unfold count
  rw [UInt64.toNat_and, countMask_toNat, Nat.and_two_pow_sub_one_eq_mod]

theorem flagged_iff (word : UInt64) : flagged word = true ↔ 2 ^ 63 ≤ word.toNat := by
  have bits : (word &&& flagBit).toNat = (word.toNat.testBit 63).toNat * 2 ^ 63 := by
    rw [UInt64.toNat_and, flagBit_toNat, Nat.and_two_pow]
  have zero : word &&& flagBit = 0 ↔ word.toNat.testBit 63 = false := by
    rw [← UInt64.toNat_inj, bits]
    cases word.toNat.testBit 63 <;> simp
  have bound := word.toNat_lt
  simp only [flagged, bne_iff_ne, ne_eq, zero, Bool.not_eq_false]
  constructor
  · intro set
    exact Nat.ge_two_pow_of_testBit set
  · intro large
    exact Nat.testBit_of_two_pow_le_and_two_pow_add_one_gt large (by omega)

theorem not_flagged_iff (word : UInt64) : flagged word = false ↔ word.toNat < 2 ^ 63 := by
  have := flagged_iff word
  cases set : flagged word <;> simp [set] at this ⊢ <;> omega

/-- A word is its flag and its count. -/
theorem toNat_eq (word : UInt64) :
    word.toNat = (if flagged word then 2 ^ 63 else 0) + count word := by
  have bound := word.toNat_lt
  rw [count_eq_mod]
  split
  next set => have := (flagged_iff word).mp set; omega
  next clear =>
    have := (not_flagged_iff word).mp (by simpa using clear)
    omega

/-- The parts of a word are known from its value. -/
theorem parts_of_toNat {word : UInt64} {set : Bool} {n : Nat} (small : n < 2 ^ 63)
    (value : word.toNat = (if set then 2 ^ 63 else 0) + n) :
    flagged word = set ∧ count word = n := by
  cases set with
  | true =>
    simp only [if_true] at value
    exact ⟨(flagged_iff word).mpr (by omega), by rw [count_eq_mod]; omega⟩
  | false =>
    simp only [Bool.false_eq_true, if_false] at value
    exact ⟨(not_flagged_iff word).mpr (by omega), by rw [count_eq_mod]; omega⟩

theorem count_lt (word : UInt64) : count word < 2 ^ 63 := by
  rw [count_eq_mod]
  exact Nat.mod_lt _ (by decide)

@[simp] theorem flagged_zero : flagged 0 = false := by decide

@[simp] theorem count_zero : count 0 = 0 := by decide

/-- Setting the flag leaves the count alone. -/
theorem or_flagBit (word : UInt64) :
    flagged (word ||| flagBit) = true ∧ count (word ||| flagBit) = count word := by
  apply parts_of_toNat (count_lt word)
  rw [UInt64.toNat_or, flagBit_toNat, toNat_eq word]
  simp only [if_true]
  have small := count_lt word
  have disjoint := Nat.two_pow_add_eq_or_of_lt small 1
  rw [Nat.mul_one] at disjoint
  split
  · rw [disjoint, Nat.or_comm, ← Nat.or_assoc, Nat.or_self]
  · rw [Nat.zero_add, Nat.or_comm, ← disjoint]

/-- Adding one to a word whose flag is clear and whose count has room. -/
theorem add_one {word : UInt64} (clear : flagged word = false) (room : count word + 1 < 2 ^ 63) :
    flagged (word + 1) = false ∧ count (word + 1) = count word + 1 := by
  apply parts_of_toNat room
  have value := toNat_eq word
  rw [clear] at value
  rw [UInt64.toNat_add, value]
  simp only [Bool.false_eq_true, if_false, UInt64.reduceToNat]
  omega

/-- Subtracting one from a word whose count is positive does not touch the
    flag. -/
theorem sub_one {word : UInt64} (positive : 0 < count word) :
    flagged (word - 1) = flagged word ∧ count (word - 1) = count word - 1 := by
  have small := count_lt word
  apply parts_of_toNat (by omega)
  have value := toNat_eq word
  have bound := word.toNat_lt
  rw [UInt64.toNat_sub, value]
  simp only [UInt64.reduceToNat]
  split <;> omega

end Xkk.Lib.FlaggedWord
