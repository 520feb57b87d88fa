/-!
# Decimal text

Numbers written with decimal digits, where needed with zeros in front up to a fixed width.
-/

namespace BootstrapVoucher.Text

/-- The decimal digits of a number, without leading zeros. -/
def digits (n : Nat) : List Char := Nat.toDigits 10 n

/-- Exactly `width` decimal digits: the lowest `width` digits of the number. -/
def fixedDigits : (width : Nat) → (n : Nat) → List Char
  | 0, _ => []
  | width + 1, n => fixedDigits width (n / 10) ++ [Nat.digitChar (n % 10)]

/-- At least `width` decimal digits. -/
def paddedDigits (width n : Nat) : List Char :=
  List.replicate (width - (digits n).length) '0' ++ digits n

/-- The number that a one and `k` zeros write. -/
def powerOfTen (k : Nat) : Nat := Nat.pow 10 k

/-- The value of a decimal digit given as a byte. -/
def digitValue? (x : UInt8) : Option Nat :=
  if 48 ≤ x && x ≤ 57 then some (x.toNat - 48) else none

theorem length_fixedDigits (width n : Nat) : (fixedDigits width n).length = width := by
  induction width generalizing n with
  | zero => rfl
  | succ width ih => simp [fixedDigits, ih]

end BootstrapVoucher.Text
