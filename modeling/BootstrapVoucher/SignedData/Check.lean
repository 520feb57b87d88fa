import BootstrapVoucher.SignedData.Envelope

/-!
# Checking envelopes

The certificates of signers are found by issuer and serial number. A signature is over the content
or, if the signer has stated attributes, over these, and then the digest among them must be that of
the content.
-/

namespace BootstrapVoucher.SignedData

open Asn1 X509
open Digest (Algorithm)

/-- The certificate that a signer names, among the given ones. -/
def SignerInfo.locate? (info : SignerInfo) (certificates : List Certificate) : Option Certificate :=
  certificates.find? fun c => c.serial == info.serial && c.issuer.sameAs info.issuer

namespace Envelope

/-- The certificates of all signers, of whom there must be one at least. -/
def locateSigners (envelope : Envelope) (certificates : List Certificate) :
    Except Failure (List Certificate) :=
  if envelope.signers.isEmpty then .error .noSigners
  else envelope.signers.mapM fun info =>
    (info.locate? certificates).elim (.error .signerMissing) .ok

end Envelope

/-- A hash that an envelope announces. -/
structure Announcement where
  /-- The hash, if signatures can be checked with it. -/
  hash : Option Algorithm
  /-- The signature algorithm that uses the hash with RSA, if the hash is announced by it. -/
  scheme : Option ObjectId
deriving DecidableEq, Repr

namespace Announcement

/-- Reads what an algorithm announces: a hash, or an algorithm that uses it with RSA. The older one
of the two such algorithms for SHA-1 announces nothing. -/
def ofAlgorithm (algorithm : AlgorithmId) : Except Failure Announcement :=
  if algorithm.id = olderShaId then .error .unknownHash
  else if furtherHashIds.contains algorithm.id then .ok ⟨none, none⟩
  else
    match hashIds.lookup algorithm.id, SignatureScheme.rsaIds.lookup algorithm.id with
    | some hash, _ => .ok ⟨hash, none⟩
    | none, some hash => .ok ⟨hash, algorithm.id⟩
    | none, none => .error .unknownHash
where
  /-- The older object identifier of SHA-1 with RSA. -/
  olderShaId : ObjectId := [1, 3, 14, 3, 2, 29]

/-- Whether the hash that is announced is the one that an object identifier names. -/
def isNamedBy (announcement : Announcement) (id : ObjectId) : Bool :=
  announcement.scheme == some id ||
    announcement.hash.any fun hash => hashIds.lookup id == some hash

end Announcement

/-- Whether an object identifier is known to stand for something. -/
def isKnownId (id : ObjectId) : Bool :=
  (hashIds.lookup id).isSome || furtherHashIds.contains id || retiredHashIds.contains id ||
    (SignatureScheme.ofId? id).isSome || (attributeName? id).isSome || contentIds.contains id ||
    id == rsaId || id == ellipticCurveId

/-- The hash of a signer, which must be among those that the envelope announces. The first of these
is meant if what the signer names is not known, unless the signer has stated attributes. -/
def SignerInfo.hash? (info : SignerInfo) (announced : List Announcement) : Option Algorithm :=
  let id := info.digestAlgorithm.id
  if !isKnownId id ∧ info.attributes.isEmpty then announced.head?.bind (·.hash)
  else (announced.find? (·.isNamedBy id)).bind (·.hash)

def distinguished (value : AnyValue) : Bytes :=
  if value.tag.tagClass = .universal ∧ value.tag.number < 31 ∧ value.tag.number ≠ 16 ∧
      value.tag.number ≠ 17 then
    Write.element (UInt8.ofNat value.tag.number) (value.value?.getD [])
  else value.bytes

namespace SignerInfo

/-- The signed form of the attributes: a set in the order in which they are stated. -/
def signedAttributes (info : SignerInfo) : Bytes :=
  Write.element 0x31 <| info.attributes.flatMap fun a =>
    Write.sequence [Write.objectId a.id, Write.set (a.values.map distinguished)]

def statedDigest? (info : SignerInfo) : Option Bytes := do
  let a ← info.attributes.find? (·.id == messageDigestId)
  let value ← a.values.head?
  guard (value.tag = .octetString)
  value.value?

/-- Succeeds if the signature of a signer is by the holder of a certificate, with one of the hashes
that the envelope announces. -/
def check (info : SignerInfo) (announced : List Announcement) (content : Bytes)
    (signer : Certificate) : Except Failure Unit :=
  match info.hash? announced, signer.publicKey? with
  | some hash, some key =>
    let digest := hash.digest content
    if info.attributes.isEmpty then
      if key.verifyDigest hash digest info.signature then .ok () else .error .badSignature
    else if info.statedDigest? ≠ some digest then .error .digestMismatch
    else if key.verifyDigest hash (hash.digest info.signedAttributes) info.signature then .ok ()
    else .error .badSignature
  | none, _ => .error .unknownHash
  | some _, none => .error .badSignature

end SignerInfo

/-- The content of an envelope, once the signatures of all signers have been checked. -/
def Envelope.authenticate (envelope : Envelope) (certificates : List Certificate) :
    Except Failure Bytes := do
  let some content := envelope.content | .error .noContent
  let signers ← envelope.locateSigners certificates
  let announced ← envelope.digestAlgorithms.mapM Announcement.ofAlgorithm
  (envelope.signers.zip signers).forM fun (info, signer) => info.check announced content signer
  return content

end BootstrapVoucher.SignedData
