import BootstrapVoucher.Text.Decimal

/-!
# Double-precision numbers

A non-negative finite double is a significand of at most 53 bits times a power of two. Arithmetic on
doubles is exact arithmetic followed by rounding to the nearest double, a tie going to the even
significand. The shortest decimal that reads back is found by trying one digit, two digits and so on.
-/

namespace BootstrapVoucher.Json

/-- A non-negative finite double, `significand * 2 ^ exponent`. -/
structure Binary64 where
  significand : Nat
  exponent : Int
deriving DecidableEq, Repr

namespace Binary64

/-- The quotient of two numbers rounded to the nearest integer, a tie to the even one. -/
def roundDiv (num den : Nat) : Nat :=
  let q := num / den
  let twice := 2 * (num % den)
  if twice < den then q else if twice = den then q + q % 2 else q + 1

/-- The fraction `num / den` scaled by a power of two, as a numerator and a denominator. -/
def scaled (num den : Nat) (exponent : Int) : Nat × Nat :=
  if exponent < 0 then (num <<< exponent.natAbs, den) else (num, den <<< exponent.natAbs)

/-- The double nearest to a fraction, or nothing if it is too large. -/
def nearest (num den : Nat) : Option Binary64 :=
  if num = 0 then some ⟨0, -1074⟩
  else
    let guess : Int := max ((num.log2 : Int) - den.log2 - 53) (-1074)
    let (n, d) := scaled num den guess
    let exponent := if n / d < 1 <<< 53 then guess else guess + 1
    let (n, d) := scaled num den exponent
    let m := roundDiv n d
    let result : Binary64 := if m = 1 <<< 53 then ⟨1 <<< 52, exponent + 1⟩ else ⟨m, exponent⟩
    if result.exponent ≤ 971 then some result else none

def ratio (x : Binary64) : Nat × Nat :=
  if x.exponent < 0 then (x.significand, 1 <<< x.exponent.natAbs)
  else (x.significand <<< x.exponent.natAbs, 1)

/-- The product of two doubles, rounded; nothing on overflow. -/
def mul? (x y : Binary64) : Option Binary64 :=
  nearest (x.ratio.1 * y.ratio.1) (x.ratio.2 * y.ratio.2)

/-- The quotient of two doubles, rounded; nothing on overflow. -/
def div? (x y : Binary64) : Option Binary64 :=
  nearest (x.ratio.1 * y.ratio.2) (x.ratio.2 * y.ratio.1)

/-- Whether the fraction `num / den` rounds to the double. -/
def roundsTo (x : Binary64) (num den : Nat) : Bool := nearest num den == some x

/-- The decimal exponent of a fraction: the least `k` with `num / den < 10 ^ k`, between -330
and 310. -/
def decimalExponent (num den : Nat) : Int :=
  let below (k : Int) : Bool :=
    let power := Text.powerOfTen k.natAbs
    if k < 0 then num * power < den else num < den * power
  match (List.range 640).find? fun (i : Nat) => below ((i : Int) - 330) with
  | some i => (i : Int) - 330
  | none => 310

/-- The multiple of `10 ^ exponent` that is nearest to `num / den` among those that round to the
double, if there is one. -/
def onGrid? (x : Binary64) (num den : Nat) (exponent : Int) : Option Nat :=
  let power := Text.powerOfTen exponent.natAbs
  let (n, d) := if exponent < 0 then (num * power, den) else (num, den * power)
  let fits (q : Nat) : Bool :=
    if exponent < 0 then x.roundsTo q power else x.roundsTo (q * power) 1
  let q := n / d
  let twice := 2 * (n % d)
  let low := fits q
  let high := fits (q + 1)
  if low && (!high || twice < d || twice == d && q % 2 == 0) then some q
  else if high then some (q + 1)
  else none

/-- The shortest decimal digits that read back as the double, nearest to it if there are several of
that length, and the number of digits before the decimal point. -/
def shortest (x : Binary64) : List Char × Int :=
  let (num, den) := x.ratio
  let point := decimalExponent num den
  let found := (List.range 17).findSome? fun (i : Nat) =>
    (onGrid? x num den (point - (i + 1 : Nat))).map fun q => (q, point - (i + 1 : Nat))
  match found with
  | some (q, exponent) =>
    let all := Text.digits q
    ((all.reverse.dropWhile (· == '0')).reverse, all.length + exponent)
  | none => (['0'], 1)

/-- The text of a double: positional while the first digit stands from the fifth place after the
point to the sixteenth before it, always with a point, and otherwise with a signed exponent. -/
def text (x : Binary64) : List Char :=
  if x.significand = 0 then ['0', '.', '0']
  else
    let (digits, point) := x.shortest
    let count := digits.length
    if -5 ≤ point - 1 ∧ point - 1 ≤ 15 then
      if point ≤ 0 then ['0', '.'] ++ List.replicate point.natAbs '0' ++ digits
      else if count ≤ point.toNat then
        digits ++ List.replicate (point.toNat - count) '0' ++ ['.', '0']
      else digits.take point.toNat ++ '.' :: digits.drop point.toNat
    else
      digits.take 1 ++ (if count = 1 then [] else '.' :: digits.drop 1) ++
        ['e', if point - 1 < 0 then '-' else '+'] ++ Text.digits (point - 1).natAbs

end Binary64

end BootstrapVoucher.Json
