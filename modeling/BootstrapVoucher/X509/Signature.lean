import BootstrapVoucher.X509.Key

/-!
# Signature algorithms

What the object identifier of a signature algorithm says about the hash and the kind of key, and how
signatures are checked with a public key.
-/

namespace BootstrapVoucher.X509

open Asn1
open Digest (Algorithm)

/-- What a signature algorithm asks for. An algorithm whose hash is not supported still asks for a
kind of key. -/
inductive SignatureScheme
  | rsa (hash : Option Algorithm)
  | maskedRsa
  | ellipticCurve (hash : Option Algorithm)
  | octets (kind : OctetKeyKind)
deriving DecidableEq, Repr

namespace SignatureScheme

/-- The object identifiers of the algorithms with RSA keys and with elliptic-curve keys. -/
def rsaIds : List (ObjectId × Algorithm) := [
  ([1, 2, 840, 113549, 1, 1, 4], .md5),
  ([1, 2, 840, 113549, 1, 1, 5], .sha1),
  ([1, 3, 14, 3, 2, 29], .sha1),
  ([1, 2, 840, 113549, 1, 1, 14], .sha224),
  ([1, 2, 840, 113549, 1, 1, 11], .sha256),
  ([1, 2, 840, 113549, 1, 1, 12], .sha384),
  ([1, 2, 840, 113549, 1, 1, 13], .sha512),
  ([1, 2, 840, 113549, 1, 1, 15], .sha512Short224),
  ([1, 2, 840, 113549, 1, 1, 16], .sha512Short256),
  ([2, 16, 840, 1, 101, 3, 4, 3, 13], .sha3x224),
  ([2, 16, 840, 1, 101, 3, 4, 3, 14], .sha3x256),
  ([2, 16, 840, 1, 101, 3, 4, 3, 15], .sha3x384),
  ([2, 16, 840, 1, 101, 3, 4, 3, 16], .sha3x512)]

@[inherit_doc rsaIds]
def ellipticCurveIds : List (ObjectId × Algorithm) := [
  ([1, 2, 840, 10045, 4, 1], .sha1),
  ([1, 2, 840, 10045, 4, 3, 1], .sha224),
  ([1, 2, 840, 10045, 4, 3, 2], .sha256),
  ([1, 2, 840, 10045, 4, 3, 3], .sha384),
  ([1, 2, 840, 10045, 4, 3, 4], .sha512),
  ([2, 16, 840, 1, 101, 3, 4, 3, 9], .sha3x224),
  ([2, 16, 840, 1, 101, 3, 4, 3, 10], .sha3x256),
  ([2, 16, 840, 1, 101, 3, 4, 3, 11], .sha3x384),
  ([2, 16, 840, 1, 101, 3, 4, 3, 12], .sha3x512)]

/-- The object identifiers of algorithms whose hash is not supported. -/
def unsupportedRsaIds : List ObjectId := [
  [1, 2, 840, 113549, 1, 1, 2], [1, 2, 840, 113549, 1, 1, 3], [1, 3, 14, 3, 2, 3],
  [1, 3, 14, 3, 2, 15], [1, 3, 36, 3, 3, 1, 2], [2, 5, 8, 3, 100]]

@[inherit_doc unsupportedRsaIds]
def unsupportedCurveIds : List ObjectId := [[1, 2, 840, 10045, 4, 2], [1, 2, 840, 10045, 4, 3]]

def ofId? (id : ObjectId) : Option SignatureScheme :=
  if id = maskedRsaId then some maskedRsa
  else if unsupportedRsaIds.contains id then some (rsa none)
  else if unsupportedCurveIds.contains id then some (ellipticCurve none)
  else
    match rsaIds.lookup id, ellipticCurveIds.lookup id, OctetKeyKind.ofId? id with
    | some hash, _, _ => some (rsa (some hash))
    | none, some hash, _ => some (ellipticCurve (some hash))
    | none, none, some .ed25519 => some (octets .ed25519)
    | none, none, some .ed448 => some (octets .ed448)
    | none, none, _ => none

/-- Whether a key is of the kind that a scheme asks for. -/
def suits : SignatureScheme → PublicKey → Bool
  | rsa _, .rsa _ => true
  | maskedRsa, .rsa _ | maskedRsa, .maskedRsa _ => true
  | ellipticCurve _, .ellipticCurve _ _ => true
  | octets kind, .octets other _ => kind == other
  | _, _ => false

end SignatureScheme

/-- The hash whose strength counts for signatures of an algorithm, in bits of security. -/
def AlgorithmId.strength? (algorithm : AlgorithmId) : Option Nat := do
  match ← SignatureScheme.ofId? algorithm.id with
  | .rsa hash | .ellipticCurve hash => hash.map (·.strength)
  | .maskedRsa => return (← algorithm.masking?).hash.strength
  | .octets kind => return if kind = .ed25519 then 128 else 224

/-- The two numbers of an elliptic-curve signature, which must be in distinguished form. -/
def readCurveSignature? (b : Bytes) : Option Curve.Weierstrass.Signature := do
  let signature ← readExactly? (Fields.sequence? do
    let r ← Fields.natural
    let s ← Fields.natural
    return (⟨r, s⟩ : Curve.Weierstrass.Signature)) b
  guard (Write.sequence [Write.integer signature.r, Write.integer signature.s] = b)
  return signature

namespace PublicKey

def verifyDigest (key : PublicKey) (hash : Algorithm) (digest signature : Bytes) : Bool :=
  match key with
  | .rsa key => Rsa.verify key hash digest signature
  | .maskedRsa key => Rsa.verifyMasked key ⟨hash, hash, none⟩ digest signature
  | .ellipticCurve curve point =>
    match readCurveSignature? signature with
    | some signature => curve.verify point digest signature
    | none => false
  | .octets _ _ => false

/-- Whether a signature of a message by an algorithm is by the holder of the key. -/
def verify (key : PublicKey) (algorithm : AlgorithmId) (message signature : Bytes) : Bool :=
  match SignatureScheme.ofId? algorithm.id, key with
  | some (.rsa (some hash)), .rsa _
  | some (.ellipticCurve (some hash)), .ellipticCurve _ _ =>
    key.verifyDigest hash (hash.digest message) signature
  | some .maskedRsa, .rsa numbers | some .maskedRsa, .maskedRsa numbers =>
    match algorithm.masking? with
    | some masking => Rsa.verifyMasked numbers masking (masking.hash.digest message) signature
    | none => false
  | some (.octets .ed25519), .octets .ed25519 b =>
    algorithm.parameters.isNone && Curve.ed25519.verify b message signature
  | some (.octets .ed448), .octets .ed448 b =>
    algorithm.parameters.isNone && Curve.ed448.verify b message signature
  | _, _ => false

end PublicKey

end BootstrapVoucher.X509
