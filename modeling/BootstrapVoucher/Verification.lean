import BootstrapVoucher.Claims.Document
import BootstrapVoucher.Log
import BootstrapVoucher.TrustPool

/-!
# Verifying vouchers

A voucher is accepted when every signer of its envelope has a chain to the trust pool, every
signature checks, and the content is a voucher document; these are tried in that order, so content
is looked at only after it has been authenticated. Certificates inside the envelope help to build
chains and are never trusted by themselves. The answer depends on no clock: whether a voucher is
within its window is a question of its own, asked about a given instant.
-/

namespace BootstrapVoucher

open Time

variable {Cert Key Envelope : Type}

/-- Why a voucher is rejected. -/
inductive VerificationError
  | empty
  | malformed (detail : String)
  | schemaInvalid (detail : String)
  | signatureInvalid (detail : String)
  | expired (detail : String)
  | notYetValid (detail : String)
deriving DecidableEq, Repr

namespace VerificationError

/-- What went wrong, without the kind of the error. -/
def detail : VerificationError → String
  | empty => "empty"
  | malformed detail | schemaInvalid detail | signatureInvalid detail | expired detail
  | notYetValid detail => detail

def message : VerificationError → String
  | empty => "Ownership voucher is empty"
  | malformed detail => "Malformed signed data: " ++ detail
  | schemaInvalid detail => "Invalid voucher schema: " ++ detail
  | signatureInvalid detail => "Invalid signature: " ++ detail
  | expired detail => "Voucher expired: " ++ detail
  | notYetValid detail => "Voucher not yet valid: " ++ detail

end VerificationError

/-- Succeeds within the window of the claims, whose end is exclusive. -/
def Claims.checkAt (c : Claims) (at_ : Instant) : Except VerificationError Unit :=
  if at_ < c.createdOn then
    .error (.notYetValid ("voucher for " ++ c.serialNumber ++ " is valid from " ++ c.createdOn.text ++
      ", checked at " ++ at_.text))
  else if c.expiresOn ≤ at_ then
    .error (.expired ("voucher for " ++ c.serialNumber ++ " expired on " ++ c.expiresOn.text ++
      ", checked at " ++ at_.text))
  else .ok ()

namespace Verification

def openVoucher (P : Provider Cert Key Envelope) (voucher : Bytes) :
    Except VerificationError Envelope :=
  if voucher.isEmpty then .error .empty
  else
    match P.openEnvelope voucher with
    | .error e => .error (.malformed e)
    | .ok none => .error (.malformed "not a signed-data envelope")
    | .ok (some envelope) => .ok envelope

/-- The certificates of the signers, of which there must be one at least. -/
def locateSigners (P : Provider Cert Key Envelope) (envelope : Envelope) :
    Except VerificationError (List Cert) :=
  match P.locateSigners envelope (P.certificates envelope) with
  | .error e => .error (.signatureInvalid ("locating signers: " ++ e))
  | .ok [] => .error (.signatureInvalid "no signer found")
  | .ok signers => .ok signers

/-- Succeeds if a chain leads from the signer to the pool. -/
def checkSigner (P : Provider Cert Key Envelope) (pool : TrustPool Cert) (envelope : Envelope)
    (signer : Cert) : Except VerificationError Unit :=
  match P.checkChain pool.certificates (P.certificates envelope) signer with
  | .accepted => .ok ()
  | .rejected reason =>
    .error (.signatureInvalid ("untrusted signer " ++ P.subject signer ++ ": " ++ reason))
  | .failed reason => .error (.signatureInvalid reason)

/-- Succeeds if a chain leads from every signer to the pool; otherwise the first signer without one
is named. -/
def checkSigners (P : Provider Cert Key Envelope) (pool : TrustPool Cert) (envelope : Envelope) :
    List Cert → Except VerificationError Unit
  | [] => .ok ()
  | signer :: signers => do
    checkSigner P pool envelope signer
    checkSigners P pool envelope signers

/-- The content of an envelope whose signatures all check. -/
def authenticate (P : Provider Cert Key Envelope) (envelope : Envelope) :
    Except VerificationError Bytes :=
  (P.authenticate envelope (P.certificates envelope)).mapError .signatureInvalid

def decodeContent (content : Bytes) : Except VerificationError Claims :=
  (Claims.decode content).mapError fun e => .schemaInvalid e.message

def examine (P : Provider Cert Key Envelope) (pool : TrustPool Cert) (voucher : Bytes) :
    Except VerificationError (Claims × List Cert) := do
  let envelope ← openVoucher P voucher
  let signers ← locateSigners P envelope
  checkSigners P pool envelope signers
  let content ← authenticate P envelope
  let claims ← decodeContent content
  return (claims, signers)

end Verification

/-- The claims of a voucher that the pool vouches for. A rejection is logged as a warning. -/
def verify (P : Provider Cert Key Envelope) (pool : TrustPool Cert) (voucher : Bytes) :
    Logged (Except VerificationError Claims) :=
  match Verification.examine P pool voucher with
  | .error e => ⟨.error e, [⟨.warn, "rejecting ownership voucher: " ++ e.message⟩]⟩
  | .ok (claims, signers) =>
    ⟨.ok claims, [⟨.debug, "verified voucher for " ++ claims.serialNumber ++ " signed by " ++
      String.intercalate ", " (signers.map P.fingerprint)⟩]⟩

/-- The claims of a voucher that the pool vouches for and that is within its window at an instant. -/
def verifyAt (P : Provider Cert Key Envelope) (pool : TrustPool Cert) (voucher : Bytes)
    (at_ : Instant) : Logged (Except VerificationError Claims) :=
  let verified := verify P pool voucher
  ⟨do
    let claims ← verified.value
    claims.checkAt at_
    return claims, verified.records⟩

end BootstrapVoucher
