import BootstrapVoucher.Curve.Weierstrass
import BootstrapVoucher.Digest.Algorithm

/-!
# Signatures with elliptic curves

A signature is a pair of residues modulo the order of the base point. The secret number that each
signature needs is derived from the key and the digest, so signing needs no random source.
-/

namespace BootstrapVoucher.Curve.Weierstrass

/-- A signature. -/
structure Signature where
  (r s : Nat)
deriving DecidableEq, Repr

variable (curve : Weierstrass)

/-- The number of a digest: its first bits, as many as the order has. -/
def digestNumber (digest : Bytes) : Nat :=
  let bits := curve.order.log2 + 1
  Bytes.toNat digest >>> (8 * digest.length - bits)

/-- Whether a signature of a digest is by the holder of the key to a public point. -/
def verify (point : Point) (digest : Bytes) (signature : Signature) : Bool :=
  let n := curve.order
  if signature.r = 0 || n ≤ signature.r || signature.s = 0 || n ≤ signature.s then false
  else
    let w := Modular.inverse n signature.s
    let u₁ := curve.digestNumber digest * w % n
    let u₂ := signature.r * w % n
    let sum := curve.add (curve.multiple (ofPoint curve.base) u₁) (curve.multiple (ofPoint point) u₂)
    match curve.toPoint? sum with
    | some (x, _) => x % n == signature.r
    | none => false

/-- The state of the generator of secret numbers. -/
structure Generator where
  (key value : Bytes)

namespace Generator

/-- The generator for a key and a digest, both written as residues. -/
def start (hash : Digest.Algorithm) (seed : Bytes) : Generator :=
  let mix (g : Generator) (mark : UInt8) : Generator :=
    let key := hash.hmac g.key (g.value ++ mark :: seed)
    ⟨key, hash.hmac key g.value⟩
  mix (mix ⟨List.replicate hash.size 0, List.replicate hash.size 1⟩ 0) 1

/-- The state after a number that could not be used. -/
def next (hash : Digest.Algorithm) (g : Generator) : Generator :=
  let key := hash.hmac g.key (g.value ++ [0])
  ⟨key, hash.hmac key g.value⟩

/-- At least `size` bytes, and the state after them. -/
def bytes (hash : Digest.Algorithm) : (count : Nat) → Generator → Bytes × Generator
  | 0, g => ([], g)
  | count + 1, g =>
    let value := hash.hmac g.key g.value
    let (rest, last) := bytes hash count ⟨g.key, value⟩
    (value ++ rest, last)

end Generator

/-- The signature of a digest with a secret number, unless the number happens to give none. -/
def signWith? (secret : Nat) (digest : Bytes) (k : Nat) : Option Signature := do
  guard (0 < k ∧ k < curve.order)
  let (x, _) ← curve.publicPoint? k
  let r := x % curve.order
  let s := Modular.inverse curve.order k * (curve.digestNumber digest + r * secret) % curve.order
  guard (r ≠ 0 ∧ s ≠ 0)
  return ⟨r, s⟩

/-- Tries the numbers of a generator one after the other. -/
def signLoop (hash : Digest.Algorithm) (secret : Nat) (digest : Bytes) :
    (tries : Nat) → Generator → Option Signature
  | 0, _ => none
  | tries + 1, g =>
    let size := Bytes.width curve.order
    let (bytes, g) := g.bytes hash ((size + hash.size - 1) / hash.size)
    match curve.signWith? secret digest (curve.digestNumber (bytes.take size)) with
    | some signature => some signature
    | none => signLoop hash secret digest tries (g.next hash)

/-- The signature of a digest. A number that cannot be used is so rare that a hundred tries are
enough. -/
def sign? (hash : Digest.Algorithm) (secret : Nat) (digest : Bytes) : Option Signature :=
  let size := Bytes.width curve.order
  let residue := Bytes.ofNat size (curve.digestNumber digest % curve.order)
  curve.signLoop hash secret digest 100 (Generator.start hash (Bytes.ofNat size secret ++ residue))

end BootstrapVoucher.Curve.Weierstrass
