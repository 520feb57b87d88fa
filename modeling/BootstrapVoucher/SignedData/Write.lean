import BootstrapVoucher.SignedData.Envelope
import BootstrapVoucher.Text.Decimal
import BootstrapVoucher.Time.Instant

/-!
# Writing envelopes

A new envelope holds content, the certificate of its only signer and the signer's statement: the type
of the content, the time of signing and the digest of the content, signed together.
-/

namespace BootstrapVoucher.SignedData

open Asn1 X509
open Digest (Algorithm)
open Time (Instant)

/-- The hash that new envelopes use, with its object identifier. -/
def defaultHash : Algorithm := .sha256
@[inherit_doc defaultHash] def defaultHashId : ObjectId := [2, 16, 840, 1, 101, 3, 4, 2, 1]

/-- The attributes that hold the type of the content and the time of signing. -/
def contentTypeId : ObjectId := [1, 2, 840, 113549, 1, 9, 3]
@[inherit_doc contentTypeId] def signingTimeId : ObjectId := [1, 2, 840, 113549, 1, 9, 5]

/-- A point of time, with two digits of the year where they are enough. -/
def writeTime (t : Instant) : Bytes :=
  let date := t.date
  let clock := t.secondOfDay
  let pair (n : Nat) : List Char := Text.fixedDigits 2 n
  let year := date.year.toNat
  let rest := pair date.month ++ pair date.day ++ pair (clock / 3600) ++ pair (clock / 60 % 60) ++
    pair (clock % 60) ++ ['Z']
  if 1950 ≤ year ∧ year < 2050 then
    Write.utcTime (Bytes.ofText (String.ofList (pair (year % 100) ++ rest)))
  else Write.generalizedTime (Bytes.ofText (String.ofList (Text.fixedDigits 4 year ++ rest)))

/-- The signature of a digest, and the written algorithm. -/
def signDigest (key : PrivateKey) (digest : Bytes) : Except Failure (Bytes × Bytes) :=
  match key with
  | .rsa key =>
    match Rsa.sign? key defaultHash digest with
    | some signature => .ok (Write.sequence [Write.objectId rsaId, Write.null], signature)
    | none => .error .digestTooBig
  | .ellipticCurve curve secret _ =>
    match curve.sign? defaultHash secret digest with
    | some signature =>
      .ok (Write.sequence [Write.objectId [1, 2, 840, 10045, 4, 3, 2]],
        Write.sequence [Write.integer signature.r, Write.integer signature.s])
    | none => .error .unsuitableKey
  | .maskedRsa _ | .octets _ _ => .error .unsuitableKey

def writeAttribute (id : ObjectId) (value : Bytes) : Bytes :=
  Write.sequence [Write.objectId id, Write.set [value]]

def sign (now : Instant) (certificate : Certificate) (key : PrivateKey) (content : Bytes) :
    Except Failure Bytes := do
  let attributes := Write.set [
    writeAttribute contentTypeId (Write.objectId dataId),
    writeAttribute signingTimeId (writeTime now),
    writeAttribute messageDigestId (Write.octets (defaultHash.digest content))]
  let (algorithm, signature) ← signDigest key (defaultHash.digest attributes)
  let hash := Write.sequence [Write.objectId defaultHashId, Write.null]
  let signer := Write.sequence [
    Write.integer 1,
    Write.sequence [certificate.issuer.write, Write.integer certificate.serial],
    hash, Write.element 0xa0 ((attributes.drop 1).drop (Write.length 0).length), algorithm,
    Write.octets signature]
  return Write.sequence [Write.objectId signedId, Write.wrapped 0 [Write.sequence [
    Write.integer 1, Write.set [hash],
    Write.sequence [Write.objectId dataId, Write.wrapped 0 [Write.octets content]],
    Write.wrapped 0 [certificate.der], Write.set [signer]]]]

end BootstrapVoucher.SignedData
