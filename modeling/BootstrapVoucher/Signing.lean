import BootstrapVoucher.Claims.Document
import BootstrapVoucher.KeyPair
import BootstrapVoucher.Log

/-!
# Signing vouchers

A vendor signs claims with its key pair: the document of the claims is put into an envelope with the
vendor's certificate as the only signer. The options of a signer fill in what the caller of
`Signer.signAt` does not give; ready claims are signed as they are.
-/

namespace BootstrapVoucher

open Time

variable {Cert Key Envelope : Type}

/-- Why a voucher cannot be signed. -/
inductive SigningError
  | keyMismatch (subject : String)
  | unsupportedKey (detail : String)
  | encoding (error : FormatError)
  | cryptoError (detail : String)
deriving DecidableEq, Repr

namespace SigningError

/-- What went wrong, without the kind of the error. -/
def detail : SigningError → String
  | keyMismatch detail | unsupportedKey detail | cryptoError detail => detail
  | encoding error => error.detail

def message : SigningError → String
  | keyMismatch subject => "Private key does not match certificate: " ++ subject
  | unsupportedKey detail => "Unsupported signing key: " ++ detail
  | encoding error => "Encoding error: " ++ error.message
  | cryptoError detail => "Crypto error: " ++ detail

end SigningError

/-- The number of days for which a voucher is valid unless told otherwise. -/
def defaultValidityDays : Nat := 365

/-- A vendor's key pair and what its new vouchers state. -/
structure Signer (Cert Key : Type) where
  vendor : KeyPair Cert Key
  assertion : Option Assertion
  revocationChecks : Bool
  validity : Span

namespace Signer

/-- The signer of a key pair: no assertion, no revocation checks, one year of validity. -/
def ofVendor (vendor : KeyPair Cert Key) : Signer Cert Key :=
  ⟨vendor, none, false, Span.ofDays defaultValidityDays⟩

def withAssertion (s : Signer Cert Key) (a : Assertion) : Signer Cert Key :=
  { s with assertion := some a }

def withRevocationChecks (s : Signer Cert Key) (b : Bool) : Signer Cert Key :=
  { s with revocationChecks := b }

def withValidity (s : Signer Cert Key) (v : Span) : Signer Cert Key := { s with validity := v }

/-- The subject of a vendor whose key can sign vouchers; a key must match its certificate and be an
RSA or an elliptic-curve key. -/
def checkKey (P : Provider Cert Key Envelope) (vendor : KeyPair Cert Key) : Except SigningError Unit :=
  if !vendor.isMatching P then .error (.keyMismatch (vendor.subject P))
  else
    match P.keyKind vendor.key with
    | .rsa | .ellipticCurve => .ok ()
    | .other number =>
      .error (.unsupportedKey ("Id(" ++ toString number ++ ") key for " ++ vendor.subject P))

/-- The envelope of ready claims, made at the instant `now`. -/
def envelopeOf (P : Provider Cert Key Envelope) (vendor : KeyPair Cert Key) (now : Instant) (claims : Claims) :
    Except SigningError Bytes := do
  checkKey P vendor
  let content ← claims.encode.mapError SigningError.encoding
  (P.sign now vendor.certificate vendor.key content).mapError SigningError.cryptoError

def signClaims (P : Provider Cert Key Envelope) (s : Signer Cert Key) (now : Instant) (claims : Claims) :
    Logged (Except SigningError Bytes) :=
  match envelopeOf P s.vendor now claims with
  | .error e => ⟨.error e, []⟩
  | .ok voucher =>
    ⟨.ok voucher, [⟨.debug, "signed voucher for " ++ claims.serialNumber ++ " (expires " ++
      claims.expiresOn.text ++ ") with " ++ s.vendor.fingerprint P⟩]⟩

/-- The claims that a signer makes about a device. -/
def claims (s : Signer Cert Key) (serialNumber pdcPem : String) (createdOn : Instant) :
    Except FormatError Claims := do
  let claims ← Claims.issue serialNumber pdcPem createdOn s.validity
  return { claims with assertion := s.assertion, revocationChecks := s.revocationChecks }

/-- Signs a voucher that is valid from `createdOn` on. -/
def signAt (P : Provider Cert Key Envelope) (s : Signer Cert Key) (now : Instant)
    (serialNumber pdcPem : String) (createdOn : Instant) : Logged (Except SigningError Bytes) :=
  match s.claims serialNumber pdcPem createdOn with
  | .error e => ⟨.error (.encoding e), []⟩
  | .ok claims => s.signClaims P now claims

/-- Signs a voucher that is valid from the second of `now` on. -/
def sign (P : Provider Cert Key Envelope) (s : Signer Cert Key) (now : Instant)
    (serialNumber pdcPem : String) : Logged (Except SigningError Bytes) :=
  s.signAt P now serialNumber pdcPem now.wholeSecond

end Signer

end BootstrapVoucher
