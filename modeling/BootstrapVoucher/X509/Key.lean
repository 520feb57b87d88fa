import BootstrapVoucher.Curve.Ecdsa
import BootstrapVoucher.Curve.Edwards
import BootstrapVoucher.Curve.Montgomery
import BootstrapVoucher.Curve.Named
import BootstrapVoucher.Pem
import BootstrapVoucher.X509.AlgorithmId

/-!
# Public and private keys

The kinds of keys that certificates and key files may hold, and how they are read. A private key
determines its public key, except that the file of an elliptic-curve key may state the public point.
-/

namespace BootstrapVoucher.X509

open Asn1
open Digest (Algorithm)

/-- The kinds of keys that are mere strings of bytes. -/
inductive OctetKeyKind
  | ed25519
  | ed448
  | x25519
  | x448
deriving DecidableEq, Repr

namespace OctetKeyKind

def ofId? : ObjectId → Option OctetKeyKind
  | [1, 3, 101, 110] => some x25519
  | [1, 3, 101, 111] => some x448
  | [1, 3, 101, 112] => some ed25519
  | [1, 3, 101, 113] => some ed448
  | _ => none

def size : OctetKeyKind → Nat
  | ed25519 | x25519 => 32
  | ed448 => 57
  | x448 => 56

def publicKey : OctetKeyKind → Bytes → Bytes
  | ed25519 => Curve.ed25519.publicKey
  | ed448 => Curve.ed448.publicKey
  | x25519 => Curve.x25519.publicKey
  | x448 => Curve.x448.publicKey

def number : OctetKeyKind → Nat
  | x25519 => 1034
  | x448 => 1035
  | ed25519 => 1087
  | ed448 => 1088

end OctetKeyKind

/-- A public key. -/
inductive PublicKey
  | rsa (key : Rsa.PublicKey)
  /-- An RSA key that may only be used with masked signatures. -/
  | maskedRsa (key : Rsa.PublicKey)
  | ellipticCurve (curve : Curve.Weierstrass) (point : Curve.Point)
  | octets (kind : OctetKeyKind) (key : Bytes)
deriving DecidableEq, Repr

/-- A private key. -/
inductive PrivateKey
  | rsa (key : Rsa.PrivateKey)
  | maskedRsa (key : Rsa.PrivateKey)
  | ellipticCurve (curve : Curve.Weierstrass) (secret : Nat) (point : Curve.Point)
  | octets (kind : OctetKeyKind) (secret : Bytes)
deriving DecidableEq, Repr

namespace PrivateKey

def publicKey : PrivateKey → PublicKey
  | rsa key => .rsa key.toPublicKey
  | maskedRsa key => .maskedRsa key.toPublicKey
  | ellipticCurve curve _ point => .ellipticCurve curve point
  | octets kind secret => .octets kind (kind.publicKey secret)

end PrivateKey

def rsaId : ObjectId := [1, 2, 840, 113549, 1, 1, 1]
def maskedRsaId : ObjectId := [1, 2, 840, 113549, 1, 1, 10]
def ellipticCurveId : ObjectId := [1, 2, 840, 10045, 2, 1]

def namedCurves : List (ObjectId × Curve.Weierstrass) := [
  ([1, 2, 840, 10045, 3, 1, 1], Curve.p192),
  ([1, 3, 132, 0, 33], Curve.p224),
  ([1, 2, 840, 10045, 3, 1, 7], Curve.p256),
  ([1, 3, 132, 0, 34], Curve.p384),
  ([1, 3, 132, 0, 35], Curve.p521),
  ([1, 3, 132, 0, 10], Curve.secp256k1),
  ([1, 3, 36, 3, 3, 2, 8, 1, 1, 7], Curve.brainpool256),
  ([1, 3, 36, 3, 3, 2, 8, 1, 1, 11], Curve.brainpool384),
  ([1, 3, 36, 3, 3, 2, 8, 1, 1, 13], Curve.brainpool512)]

/-- A curve, and whether its parameters are written out instead of a name. -/
structure CurveChoice where
  curve : Curve.Weierstrass
  explicitly : Bool
deriving DecidableEq, Repr

namespace CurveChoice

/-- The point of a curve that bytes write: both coordinates, or the abscissa and the parity of the
ordinate. -/
def point? (curve : Curve.Weierstrass) (b : Bytes) : Option Curve.Point := do
  let first ← b.head?
  let rest := b.drop 1
  let x := Bytes.toNat (rest.take curve.size)
  if first = 2 ∨ first = 3 then
    guard (rest.length = curve.size)
    curve.lift? x (first = 3)
  else
    let y := Bytes.toNat (rest.drop curve.size)
    guard (rest.length = 2 * curve.size ∧ curve.contains (x, y))
    guard (first = 4 ∨ (first = 6 ∨ first = 7) ∧ first.toNat % 2 = y % 2)
    return (x, y)

/-- Reads the parameters of a curve over a prime field. -/
def readParameters? : Element → Option Curve.Weierstrass :=
  Fields.sequence? do
    let _ ← Fields.small
    let prime ← Fields.next <| Fields.sequence? do
      let kind ← Fields.objectId
      guard (kind = [1, 2, 840, 10045, 1, 1])
      Fields.natural
    let (a, b) ← Fields.next <| Fields.sequence? do
      let a ← Fields.octets
      let b ← Fields.octets
      let _ ← Fields.optional [.bitString] Element.bitString?
      return (Bytes.toNat a, Bytes.toNat b)
    let base ← Fields.octets
    let order ← Fields.natural
    let _ ← Fields.optional [.integer] Element.natural?
    let curve : Curve.Weierstrass := ⟨prime, a, b, (0, 0), order⟩
    let base ← (point? curve base : Option _)
    return { curve with base }

/-- Reads the choice of a curve: a name or parameters. -/
def read? (e : Element) : Option CurveChoice :=
  if e.tag = .objectId then do
    let curve ← namedCurves.lookup (← e.objectId?)
    return ⟨curve, false⟩
  else (readParameters? e).map (⟨·, true⟩)

end CurveChoice

namespace PublicKey

def readRsa? : Element → Option Rsa.PublicKey :=
  Fields.sequence? do
    let modulus ← Fields.magnitude
    let exponent ← Fields.magnitude
    return ⟨modulus, exponent⟩

def ofBytes? (algorithm : AlgorithmId) (b : Bytes) : Option PublicKey :=
  if algorithm.id = rsaId then .rsa <$> readWith? readRsa? b
  else if algorithm.id = maskedRsaId then do
    let _ ← algorithm.parameters.mapM readMasking?
    .maskedRsa <$> readWith? readRsa? b
  else if algorithm.id = ellipticCurveId then do
    let choice ← CurveChoice.read? (← algorithm.parameters)
    return .ellipticCurve choice.curve (← CurveChoice.point? choice.curve b)
  else do
    let kind ← OctetKeyKind.ofId? algorithm.id
    guard (algorithm.parameters.isNone ∧ b.length = kind.size)
    return .octets kind b

/-- Whether a key has 112 bits of security at least. -/
def isStrong : PublicKey → Bool
  | rsa key | maskedRsa key => 1962 ≤ key.bits
  | ellipticCurve curve _ => 1 <<< 223 ≤ curve.order
  | octets _ _ => true

end PublicKey

namespace PrivateKey

/-- Reads what an RSA key with more than two primes says of one more prime. -/
def readFurtherPrime? : Element → Option Unit :=
  Fields.sequence? do
    let _ ← [(), (), ()].mapM fun _ => Fields.magnitude

/-- The numbers of an RSA key, of which only the first four are used. The key has further primes if
it is of version 1. -/
def readRsa? : Element → Option Rsa.PrivateKey :=
  Fields.sequence? do
    let version ← Fields.small
    let modulus ← Fields.magnitude
    let exponent ← Fields.magnitude
    let secret ← Fields.magnitude
    let _ ← [(), (), (), (), ()].mapM fun _ => Fields.magnitude
    let further ← Fields.optional [.sequence] (·.members? readFurtherPrime?)
    guard (version ≠ 1 ∨ (further.getD []) ≠ [])
    return ⟨⟨modulus, exponent⟩, secret⟩

/-- The elliptic-curve key of an element. The curve is the one it names, or else the given one; the
public point is the one it states, or else the one that belongs to the secret. -/
def readCurveKey? (given : Option CurveChoice) : Element → Option PrivateKey :=
  Fields.sequence? do
    let _ ← Fields.small
    let secret ← Fields.octets
    let stated ← Fields.optional [.context 0] fun e => e.wrapped? CurveChoice.read?
    let point ← Fields.optional [.context 1] fun e => e.wrapped? fun e => do
      guard (e.tag = .bitString)
      e.bitString?
    let choice ← (stated.or given : Option CurveChoice)
    let secret := Bytes.toNat secret
    let point ← match point with
      | some bits => (CurveChoice.point? choice.curve bits.bytes : Option _)
      | none => (choice.curve.publicPoint? secret : Option _)
    return .ellipticCurve choice.curve secret point

def ofBytes? (algorithm : AlgorithmId) (b : Bytes) : Option PrivateKey :=
  if algorithm.id = rsaId then .rsa <$> readWith? readRsa? b
  else if algorithm.id = maskedRsaId then do
    let _ ← algorithm.parameters.mapM readMasking?
    .maskedRsa <$> readWith? readRsa? b
  else if algorithm.id = ellipticCurveId then
    match algorithm.parameters with
    | some parameters => do
      let choice ← CurveChoice.read? parameters
      readWith? (readCurveKey? (some choice)) b
    | none => none
  else do
    let kind ← OctetKeyKind.ofId? algorithm.id
    guard algorithm.parameters.isNone
    let secret ← readWith? (fun e => if e.tag = .octetString then e.text? else none) b
    guard (secret.length = kind.size)
    return .octets kind secret

/-- Reads a remark on a key, of which only the form matters. -/
def readKeyAttribute? : Element → Option Unit :=
  Fields.sequence? do
    let _ ← Fields.objectId
    let _ ← Fields.field .set (·.members? Element.any?)

def readNamed? : Element → Option PrivateKey :=
  Fields.sequence? do
    let version ← Fields.integer
    let algorithm ← Fields.next AlgorithmId.read?
    let key ← Fields.octets
    let _ ← Fields.optional [.context 0] (·.members? readKeyAttribute?)
    let point ← Fields.optional [.context 1] Element.bitString?
    guard (version = 1 ∨ version = 0 ∧ point.isNone)
    (ofBytes? algorithm key : Option _)

/-- The forms of private keys that the label of a block of a PEM text admits. -/
inductive Form
  /-- A key that names its algorithm. -/
  | named
  /-- The numbers of an RSA key. -/
  | rsa
  /-- The numbers of an elliptic-curve key. -/
  | ellipticCurve
deriving DecidableEq, Repr

/-- The form of keys for each label of a block. -/
def labels : List (String × Form) := [
  ("PRIVATE KEY", .named), ("ENCRYPTED PRIVATE KEY", .named), ("RSA PRIVATE KEY", .rsa),
  ("RSA PUBLIC KEY", .rsa), ("EC PRIVATE KEY", .ellipticCurve), ("EC PARAMETERS", .ellipticCurve)]

def suits (key : PrivateKey) : Form → Bool
  | .named => true
  | .rsa => match key with
    | .rsa _ => true
    | _ => false
  | .ellipticCurve => match key with
    | .ellipticCurve _ _ _ => true
    | _ => false

/-- The key of a block. A key that names its algorithm may stand in for one that does not. -/
def ofBlock? (block : Pem.Block) : Option PrivateKey := do
  let (_, form) ← labels.find? fun (label, _) => Bytes.ofText label == block.label
  let bare : Option PrivateKey :=
    match form with
    | .named => none
    | .rsa => .rsa <$> readWith? readRsa? block.data
    | .ellipticCurve => readWith? (readCurveKey? none) block.data
  bare.or ((readWith? readNamed? block.data).filter (·.suits form))

def ofPem (text : Bytes) : Except Failure PrivateKey :=
  Pem.search (labels.map (·.1)) ofBlock? (text.length + 1) text

end PrivateKey

end BootstrapVoucher.X509
