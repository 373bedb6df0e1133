import Mathlib.Algebra.Group.Int.Defs
import Mathlib.Algebra.Group.Nat.Defs

/-! # Integers as decimal text

What a signed integer parser of a given width accepts: an optional sign and at
least one digit, within the range of the width.  Every integer in range is read
back from the text it is formatted to.
-/

namespace Xkk.Lib.Decimal

def magnitude (digits : List Char) : Option Nat :=
  if digits ≠ [] ∧ digits.all Char.isDigit then some (Nat.ofDigitChars 10 digits 0) else none

def integer (text : String) : Option Int :=
  match text.toList with
  | '-' :: digits => (magnitude digits).map fun n : Nat => -(n : Int)
  | '+' :: digits => (magnitude digits).map fun n : Nat => (n : Int)
  | digits => (magnitude digits).map fun n : Nat => (n : Int)

/-- The range of a signed integer of `width` bits. -/
def Fits (width : Nat) (n : Int) : Prop := -2 ^ (width - 1) ≤ n ∧ n < 2 ^ (width - 1)

instance (width : Nat) (n : Int) : Decidable (Fits width n) := inferInstanceAs (Decidable (_ ∧ _))

def parse (width : Nat) (text : String) : Option Int :=
  (integer text).filter fun n => Fits width n

theorem magnitude_toDigits (n : Nat) : magnitude (Nat.toDigits 10 n) = some n := by
  have digits : (Nat.toDigits 10 n).all Char.isDigit = true := by
    rw [List.all_eq_true]
    intro c member
    exact Nat.isDigit_of_mem_toDigits (by omega) (by omega) member
  rw [magnitude, if_pos ⟨Nat.toDigits_ne_nil, digits⟩, Nat.ofDigitChars_ten_toDigits]

/-- A text that starts with a digit has no sign. -/
theorem integer_of_digit {text : String} {c : Char} {rest : List Char} (starts : text.toList = c :: rest)
    (digit : c.isDigit = true) : integer text = (magnitude text.toList).map fun n : Nat => (n : Int) := by
  rw [integer]
  split
  next _ minus =>
    rw [starts] at minus
    cases minus
    exact absurd digit (by decide)
  next _ plus =>
    rw [starts] at plus
    cases plus
    exact absurd digit (by decide)
  next => rfl

theorem integer_toString (n : Int) : integer (toString n) = some n := by
  rw [Int.toString_eq_repr, Int.repr_eq_if]
  by_cases positive : 0 ≤ n
  · rw [if_pos positive]
    obtain ⟨c, rest, starts⟩ := List.exists_cons_of_ne_nil (Nat.toDigits_ne_nil (n := n.toNat) (b := 10))
    have digit : c.isDigit = true :=
      Nat.isDigit_of_mem_toDigits (b := 10) (n := n.toNat) (by omega) (by omega) (by simp [starts])
    rw [integer_of_digit (by rw [Nat.toList_repr, starts]) digit, Nat.toList_repr, magnitude_toDigits]
    exact congrArg some (Int.toNat_of_nonneg positive)
  · rw [if_neg positive]
    have signed : ("-" ++ (-n).toNat.repr).toList = '-' :: Nat.toDigits 10 (-n).toNat := by
      rw [String.toList_append, Nat.toList_repr]
      rfl
    have read : integer ("-" ++ (-n).toNat.repr) = some (-((-n).toNat : Int)) := by
      rw [integer, signed]
      simp only [magnitude_toDigits, Option.map_some]
    rw [read]
    congr 1
    omega

theorem parse_toString {width : Nat} {n : Int} (fits : Fits width n) : parse width (toString n) = some n := by
  rw [parse, integer_toString, Option.filter_some, if_pos (decide_eq_true fits)]

/-! ## Unsigned integers -/

/-- An unsigned parser takes a plus sign and no minus sign. -/
def natural (text : String) : Option Nat :=
  match text.toList with
  | '+' :: digits => magnitude digits
  | digits => magnitude digits

def parseUnsigned (width : Nat) (text : String) : Option Nat := (natural text).filter fun n => n < 2 ^ width

theorem toString_inj {m n : Int} (same : toString m = toString n) : m = n := by
  have read := congrArg integer same
  rw [integer_toString, integer_toString] at read
  exact Option.some.inj read

end Xkk.Lib.Decimal
