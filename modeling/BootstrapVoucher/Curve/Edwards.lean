import BootstrapVoucher.Curve.Weierstrass
import BootstrapVoucher.Digest.Keccak
import BootstrapVoucher.Digest.Sha2

/-!
# Curves in Edwards form

The points `(x, y)` with `a x² + y² = 1 + d x² y²` modulo a prime, and the two signature schemes on
them. A point is written as its ordinate, least significant byte first, with the parity of its
abscissa in the highest bit.
-/

namespace BootstrapVoucher.Curve

/-- A curve with a base point and the conventions of its signature scheme. -/
structure Edwards where
  prime : Nat
  a : Nat
  d : Nat
  base : Point
  order : Nat
  /-- The number of bytes in a written point. -/
  size : Nat
  /-- The hash of the scheme, which gives twice the size. -/
  hash : Bytes → Bytes
  /-- What the scheme puts before what it hashes for a signature. -/
  domain : Bytes
  /-- The bits that are cleared at the low end of a secret number, and the bit that is set. -/
  lowBits : Nat
  highBit : Nat

namespace Edwards

/-- A point in coordinates over a common denominator. -/
structure Triple where
  (x y z : Nat)

variable (curve : Edwards)

def add (t u : Triple) : Triple :=
  let p := curve.prime
  let z := t.z * u.z % p
  let zz := z * z % p
  let xx := t.x * u.x % p
  let yy := t.y * u.y % p
  let e := curve.d * xx % p * yy % p
  let f := (zz + (p - e)) % p
  let g := (zz + e) % p
  let cross := ((t.x + t.y) * (u.x + u.y) + (p - xx) + (p - yy)) % p
  ⟨z * f % p * cross % p, z * g % p * ((yy + (p - curve.a) * xx) % p) % p, f * g % p⟩

/-- The multiple `n` of a point. -/
def multiple (t : Triple) (n : Nat) : Triple :=
  if n = 0 then ⟨0, 1, 1⟩
  else
    let half := multiple t (n / 2)
    let twice := curve.add half half
    if n % 2 = 0 then twice else curve.add twice t

def ofPoint (point : Point) : Triple := ⟨point.1, point.2, 1⟩

def toPoint (t : Triple) : Point :=
  let u := Modular.inverse curve.prime t.z
  (t.x * u % curve.prime, t.y * u % curve.prime)

def encode (point : Point) : Bytes :=
  Bytes.ofNatLittle curve.size (point.2 + (point.1 % 2) <<< (8 * curve.size - 1))

def decode? (b : Bytes) : Option Point := do
  let n := Bytes.toNatLittle b
  let mark := 1 <<< (8 * curve.size - 1)
  let y := n % mark
  guard (b.length = curve.size ∧ y < curve.prime)
  let p := curve.prime
  let yy := y * y % p
  let square := (1 + (p - yy)) * Modular.inverse p (curve.a + curve.d * (p - yy)) % p
  let x ← Modular.squareRoot? p square
  let odd := n / mark
  if x % 2 = odd then some (x, y)
  else if x = 0 then none
  else some (p - x, y)

def secretNumber (seed : Bytes) : Nat :=
  let n := Bytes.toNatLittle ((curve.hash seed).take curve.size) % (1 <<< curve.highBit)
  n - n % (1 <<< curve.lowBits) + 1 <<< curve.highBit

def publicKey (seed : Bytes) : Bytes :=
  curve.encode (curve.toPoint (curve.multiple (ofPoint curve.base) (curve.secretNumber seed)))

/-- Whether a signature of a message is by the holder of the seed to a public key. -/
def verify (key message signature : Bytes) : Bool :=
  let r := signature.take curve.size
  let s := Bytes.toNatLittle (signature.drop curve.size)
  match curve.decode? key with
  | some point =>
    let k := Bytes.toNatLittle (curve.hash (curve.domain ++ r ++ key ++ message)) % curve.order
    let back := (curve.prime - point.1, point.2)
    let sum := curve.add (curve.multiple (ofPoint curve.base) s) (curve.multiple (ofPoint back) k)
    signature.length == 2 * curve.size && s < curve.order &&
      curve.encode (curve.toPoint sum) == r
  | none => false

end Edwards

def ed25519 : Edwards where
  prime := 1 <<< 255 - 19
  a := 1 <<< 255 - 20
  d := 0x52036cee2b6ffe738cc740797779e89800700a4d4141d8ab75eb4dca135978a3
  base := (0x216936d3cd6e53fec0a4e231fdd6dc5c692cc7609525a7b2c9562d608f25d51a,
    0x6666666666666666666666666666666666666666666666666666666666666658)
  order := 1 <<< 252 + 27742317777372353535851937790883648493
  size := 32
  hash := Digest.Sha2.sha512
  domain := []
  lowBits := 3
  highBit := 254

def ed448 : Edwards where
  prime := 1 <<< 448 - 1 <<< 224 - 1
  a := 1
  d := 1 <<< 448 - 1 <<< 224 - 39082
  base := (0x4f1970c66bed0ded221d15a622bf36da9e146570470f1767ea6de324a3d3a46412ae1af72ab66511433b80e18b00938e2626a82bc70cc05e,
    0x693f46716eb6bc248876203756c9c7624bea73736ca3984087789c1e05a0c2d73ad3ff1ce67c39c4fdbd132c4ed7c8ad9808795bf230fa14)
  order := 1 <<< 446 - 13818066809895115352007386748515426880336692474882178609894547503885
  size := 57
  hash := Digest.Keccak.shake256 114
  domain := Bytes.ofText "SigEd448" ++ [0, 0]
  lowBits := 2
  highBit := 447

end BootstrapVoucher.Curve
