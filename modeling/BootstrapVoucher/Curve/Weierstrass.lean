import BootstrapVoucher.Bytes
import BootstrapVoucher.Modular

/-!
# Curves in Weierstrass form

The points `(x, y)` with `y² = x³ + a x + b` modulo a prime, with a base point of known order. Sums
are computed on triples `(X, Y, Z)` that stand for `(X / Z², Y / Z³)`, so that an inverse is needed
only at the end; `Z = 0` stands for the neutral point.
-/

namespace BootstrapVoucher.Curve

abbrev Point := Nat × Nat

/-- A curve with a base point. -/
structure Weierstrass where
  prime : Nat
  a : Nat
  b : Nat
  base : Point
  /-- The order of the base point. -/
  order : Nat
deriving DecidableEq, Repr

namespace Weierstrass

/-- A point of the curve or the neutral point, in three coordinates. -/
structure Triple where
  (x y z : Nat)

def neutral : Triple := ⟨1, 1, 0⟩

variable (curve : Weierstrass)

def size : Nat := Bytes.width curve.prime

def sub (u v : Nat) : Nat := (u + (curve.prime - v % curve.prime)) % curve.prime

def rightSide (x : Nat) : Nat := (x * x % curve.prime * x + curve.a * x + curve.b) % curve.prime

def contains (point : Point) : Bool :=
  point.1 < curve.prime && point.2 < curve.prime &&
    point.2 * point.2 % curve.prime == curve.rightSide point.1

/-- The point with the abscissa `x` and an ordinate of the given parity. -/
def lift? (x : Nat) (odd : Bool) : Option Point := do
  guard (x < curve.prime)
  let y ← Modular.squareRoot? curve.prime (curve.rightSide x)
  if (y % 2 == 1) == odd then some (x, y)
  else if y = 0 then none
  else some (x, curve.prime - y)

def ofPoint (point : Point) : Triple := ⟨point.1, point.2, 1⟩

/-- A point in two coordinates; the neutral point has none. -/
def toPoint? (t : Triple) : Option Point :=
  if t.z % curve.prime = 0 then none
  else
    let u := Modular.inverse curve.prime t.z
    let square := u * u % curve.prime
    some (t.x * square % curve.prime, t.y * (square * u % curve.prime) % curve.prime)

def double (t : Triple) : Triple :=
  let p := curve.prime
  let yy := t.y * t.y % p
  let zz := t.z * t.z % p
  let s := 4 * t.x * yy % p
  let m := (3 * t.x * t.x + curve.a * (zz * zz % p)) % p
  let x := curve.sub (m * m) (2 * s)
  ⟨x, curve.sub (m * curve.sub s x) (8 * yy * yy), 2 * t.y * t.z % p⟩

def add (t u : Triple) : Triple :=
  if t.z = 0 then u
  else if u.z = 0 then t
  else
    let p := curve.prime
    let tt := t.z * t.z % p
    let uu := u.z * u.z % p
    let x₁ := t.x * uu % p
    let x₂ := u.x * tt % p
    let y₁ := t.y * (uu * u.z % p) % p
    let y₂ := u.y * (tt * t.z % p) % p
    let h := curve.sub x₂ x₁
    let r := curve.sub y₂ y₁
    if h = 0 then if r = 0 then curve.double t else neutral
    else
      let hh := h * h % p
      let hhh := hh * h % p
      let v := x₁ * hh % p
      let x := curve.sub (curve.sub (r * r) hhh) (2 * v)
      ⟨x, curve.sub (r * curve.sub v x) (y₁ * hhh), h * t.z % p * u.z % p⟩

/-- The multiple `n` of a point. -/
def multiple (t : Triple) (n : Nat) : Triple :=
  if n = 0 then neutral
  else
    let twice := curve.double (multiple t (n / 2))
    if n % 2 = 0 then twice else curve.add twice t

def publicPoint? (n : Nat) : Option Point :=
  curve.toPoint? (curve.multiple (ofPoint curve.base) n)

end Weierstrass

end BootstrapVoucher.Curve
