import Mathlib.Algebra.Group.Nat.Defs
import Mathlib.Tactic.Common

/-! # Serial numbers modulo `2 ^ 32`

Sequence numbers are counted without bound and transmitted modulo `2 ^ 32`.
`after` compares two transmitted numbers by their wrapping distance.  It is not
transitive in general; as long as the counted numbers are less than `2 ^ 31`
apart it agrees with their order.
-/

namespace Xkk.Lib.Serial

def after (value previous : UInt32) : Bool :=
  let distance := value - previous
  distance != 0 && distance < (1 : UInt32) <<< (31 : UInt32)

def atOrAfter (value previous : UInt32) : Bool := value == previous || after value previous

theorem after_iff (value previous : UInt32) :
    after value previous = true ↔
      0 < (value - previous).toNat ∧ (value - previous).toNat < 2 ^ 31 := by
  have half : ((1 : UInt32) <<< (31 : UInt32)).toNat = 2 ^ 31 := by decide
  simp only [after, Bool.and_eq_true, bne_iff_ne, ne_eq, decide_eq_true_eq,
    UInt32.lt_iff_toNat_lt, half, ← UInt32.toNat_inj, UInt32.toNat_zero]
  omega

theorem sub_ofNat_toNat (m n : Nat) :
    (UInt32.ofNat m - UInt32.ofNat n).toNat = (2 ^ 32 - n % 2 ^ 32 + m % 2 ^ 32) % 2 ^ 32 := by
  rw [UInt32.toNat_sub, UInt32.toNat_ofNat', UInt32.toNat_ofNat']

/-- On numbers that are less than `2 ^ 31` apart `after` is the strict order. -/
theorem after_ofNat {m n : Nat} (above : m < n + 2 ^ 31) (below : n < m + 2 ^ 31) :
    after (UInt32.ofNat m) (UInt32.ofNat n) = decide (n < m) := by
  have distance := sub_ofNat_toNat m n
  have hm := Nat.div_add_mod m (2 ^ 32)
  have hn := Nat.div_add_mod n (2 ^ 32)
  have hm' := Nat.mod_lt m (show 0 < 2 ^ 32 by decide)
  have hn' := Nat.mod_lt n (show 0 < 2 ^ 32 by decide)
  rw [Bool.eq_iff_iff, after_iff, decide_eq_true_iff, distance]
  omega

/-- A number is not after one that lies at most `2 ^ 31` ahead of it. -/
theorem after_ofNat_of_le {m n : Nat} (le : m ≤ n) (near : n ≤ m + 2 ^ 31) :
    after (UInt32.ofNat m) (UInt32.ofNat n) = false := by
  have distance := sub_ofNat_toNat m n
  have hm := Nat.div_add_mod m (2 ^ 32)
  have hn := Nat.div_add_mod n (2 ^ 32)
  have hm' := Nat.mod_lt m (show 0 < 2 ^ 32 by decide)
  have hn' := Nat.mod_lt n (show 0 < 2 ^ 32 by decide)
  rw [Bool.eq_false_iff, ne_eq, after_iff, distance]
  omega

theorem ofNat_inj {m n : Nat} (above : m < n + 2 ^ 31) (below : n < m + 2 ^ 31) :
    UInt32.ofNat m = UInt32.ofNat n ↔ m = n := by
  rw [← UInt32.toNat_inj, UInt32.toNat_ofNat', UInt32.toNat_ofNat']
  omega

/-- On numbers that are less than `2 ^ 31` apart `atOrAfter` is the order. -/
theorem atOrAfter_ofNat {m n : Nat} (above : m < n + 2 ^ 31) (below : n < m + 2 ^ 31) :
    atOrAfter (UInt32.ofNat m) (UInt32.ofNat n) = decide (n ≤ m) := by
  rw [Bool.eq_iff_iff, atOrAfter, Bool.or_eq_true, beq_iff_eq, ofNat_inj above below,
    after_ofNat above below, decide_eq_true_iff, decide_eq_true_iff]
  omega

end Xkk.Lib.Serial
