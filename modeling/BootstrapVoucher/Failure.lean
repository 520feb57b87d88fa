/-!
# Failures of cryptographic operations

Why a certificate, key or envelope cannot be used. The wording names the area of the failure by its
number in the common list of error codes.
-/

namespace BootstrapVoucher

/-- Why a cryptographic operation fails. -/
inductive Failure
  /-- No block of a PEM text has the wanted label. -/
  | noStartLine
  /-- A block of a PEM text is damaged. -/
  | damagedBlock
  /-- A text is not the ASN.1 of what it should be. -/
  | badStructure
  /-- A key is of a kind that is not known. -/
  | unknownKey
  /-- A key cannot be used for what is wanted. -/
  | unsuitableKey
  /-- A key is too short for its use. -/
  | shortKey
  /-- A certificate is signed with a hash that is too weak. -/
  | weakHash
  /-- Certificate and private key do not belong together. -/
  | keyMismatch
  /-- The modulus of a key is too short for a signature. -/
  | digestTooBig
  /-- An envelope has no signer. -/
  | noSigners
  /-- The certificate of a signer is missing. -/
  | signerMissing
  /-- An envelope does not hold the content it should hold. -/
  | noContent
  /-- A hash is not known. -/
  | unknownHash
  /-- The content is not the one that was signed. -/
  | digestMismatch
  /-- A signature is not by the key it should be by. -/
  | badSignature
deriving DecidableEq, Repr

namespace Failure

/-- The number of a failure in the list of error codes, its area and its reason. -/
def entry : Failure → String × String × String
  | noStartLine => ("0480006C", "PEM routines", "no start line")
  | damagedBlock => ("04800064", "PEM routines", "bad base64 decode")
  | badStructure => ("068000A8", "asn1 encoding routines", "wrong tag")
  | unknownKey => ("0300009C", "digital envelope routines", "unsupported algorithm")
  | unsuitableKey => ("030000E3", "digital envelope routines", "unsupported key type")
  | shortKey => ("0A00018F", "SSL routines", "ee key too small")
  | weakHash => ("0A00018E", "SSL routines", "ca md too weak")
  | keyMismatch => ("05800074", "x509 certificate routines", "key values mismatch")
  | digestTooBig => ("02000070", "rsa routines", "digest too big for rsa key")
  | noSigners => ("1080008E", "PKCS7 routines", "no signers")
  | signerMissing => ("10800080", "PKCS7 routines", "signer certificate not found")
  | noContent => ("1080007A", "PKCS7 routines", "no content")
  | unknownHash => ("1080006D", "PKCS7 routines", "unknown digest type")
  | digestMismatch => ("10800065", "PKCS7 routines", "digest failure")
  | badSignature => ("10800069", "PKCS7 routines", "signature failure")

def message (f : Failure) : String :=
  let (code, area, reason) := f.entry
  "error:" ++ code ++ ":" ++ area ++ "::" ++ reason

end Failure

end BootstrapVoucher
