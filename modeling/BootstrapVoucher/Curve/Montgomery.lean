import BootstrapVoucher.Bytes
import BootstrapVoucher.Modular

/-!
# Curves in Montgomery form

The abscissas of the multiples of a point, computed without ordinates. Keys for key agreement are
such abscissas, least significant byte first.
-/

namespace BootstrapVoucher.Curve

/-- A curve for key agreement. -/
structure Montgomery where
  prime : Nat
  /-- A quarter of the middle coefficient of the curve less two. -/
  coefficient : Nat
  /-- The abscissa of the base point. -/
  base : Nat
  /-- The number of bytes in a key. -/
  size : Nat
  /-- The bits that are cleared at the low end of a secret number, and the bit that is set. -/
  lowBits : Nat
  highBit : Nat

namespace Montgomery

variable (curve : Montgomery)

abbrev Fraction := Nat × Nat

/-- The abscissa of the sum of two points whose difference has the abscissa `x`. -/
def add (x : Nat) (t u : Fraction) : Fraction :=
  let p := curve.prime
  let v := (t.1 + (p - t.2)) * (u.1 + u.2) % p
  let w := (t.1 + t.2) * (u.1 + (p - u.2)) % p
  let sum := (v + w) % p
  let difference := (v + (p - w)) % p
  (sum * sum % p, x * (difference * difference % p) % p)

def double (t : Fraction) : Fraction :=
  let p := curve.prime
  let v := (t.1 + t.2) * (t.1 + t.2) % p
  let w := (t.1 + (p - t.2)) * (t.1 + (p - t.2)) % p
  let e := (v + (p - w)) % p
  (v * w % p, e * ((v + curve.coefficient * e) % p) % p)

/-- The abscissas of the multiples `n` and `n + 1` of the point with the abscissa `x`. -/
def multiples (x : Nat) (n : Nat) : Fraction × Fraction :=
  if n = 0 then ((1, 0), (x, 1))
  else
    let (t, u) := multiples x (n / 2)
    if n % 2 = 0 then (curve.double t, curve.add x t u) else (curve.add x t u, curve.double u)

def publicKey (secret : Bytes) : Bytes :=
  let n := Bytes.toNatLittle secret % (1 <<< curve.highBit)
  let t := (curve.multiples curve.base (n - n % (1 <<< curve.lowBits) + 1 <<< curve.highBit)).1
  Bytes.ofNatLittle curve.size (t.1 * Modular.inverse curve.prime t.2 % curve.prime)

end Montgomery

def x25519 : Montgomery where
  prime := 1 <<< 255 - 19
  coefficient := 121665
  base := 9
  size := 32
  lowBits := 3
  highBit := 254

def x448 : Montgomery where
  prime := 1 <<< 448 - 1 <<< 224 - 1
  coefficient := 39081
  base := 5
  size := 56
  lowBits := 2
  highBit := 447

end BootstrapVoucher.Curve
