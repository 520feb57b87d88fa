import BootstrapVoucher.Armor
import BootstrapVoucher.Time.DateAndTime

/-!
# The claims of a voucher

A voucher states that the device with a serial number belongs to the domain whose certificate it
pins, from one instant on and until another. Claims are valid when the serial number is not empty,
the window does not end before it starts, and the pinned certificate is well-formed base64; every
way into and out of a document goes through that condition.
-/

namespace BootstrapVoucher

open Time

/-- Why claims cannot be written or read. -/
inductive FormatError
  | syntaxError (detail : String)
  | semanticError (detail : String)
  | missingField (name : String)
  | pemError (detail : String)
deriving DecidableEq, Repr

namespace FormatError

/-- What went wrong, without the kind of the error. -/
def detail : FormatError → String
  | syntaxError detail | semanticError detail | missingField detail | pemError detail => detail

def message : FormatError → String
  | syntaxError detail => "Syntax error: " ++ detail
  | semanticError detail => "Semantic error: " ++ detail
  | missingField name => "Missing field: " ++ name
  | pemError detail => "PEM error: " ++ detail

end FormatError

/-- On what basis the issuer asserts the ownership. -/
inductive Assertion
  | verified
  | logged
  | proximity
deriving DecidableEq, Repr

namespace Assertion

def text : Assertion → String
  | verified => "verified"
  | logged => "logged"
  | proximity => "proximity"

def ofText (s : String) : Except FormatError Assertion :=
  if s = "verified" then .ok verified
  else if s = "logged" then .ok logged
  else if s = "proximity" then .ok proximity
  else .error (.semanticError ("unknown assertion " ++ Text.quoted s))

end Assertion

/-- What a voucher states. -/
structure Claims where
  createdOn : Instant
  expiresOn : Instant
  serialNumber : String
  assertion : Option Assertion
  /-- The base64 lines of the owner's certificate, without frame. -/
  pinnedDomainCert : String
  revocationChecks : Bool
deriving DecidableEq

namespace Claims

/-- Claims that may be written into a voucher. -/
structure Valid (c : Claims) : Prop where
  serial_ne : c.serialNumber ≠ ""
  window : c.createdOn ≤ c.expiresOn
  body : ∃ der, Armor.decodeBody c.pinnedDomainCert = .ok der

/-- Succeeds on valid claims; otherwise names the first condition that fails, in the order serial
number, window, certificate. -/
def validate (c : Claims) : Except FormatError Unit :=
  if c.serialNumber = "" then .error (.semanticError "empty serial-number")
  else if c.expiresOn < c.createdOn then
    .error (.semanticError
      ("expires-on " ++ c.expiresOn.text ++ " precedes created-on " ++ c.createdOn.text))
  else
    match Armor.decodeBody c.pinnedDomainCert with
    | .error fault => .error (.pemError fault.message)
    | .ok _ => .ok ()

def windowEnd (createdOn : Instant) (validity : Span) : Except FormatError Instant :=
  match createdOn.add? validity with
  | some t => .ok t
  | none => .error (.semanticError ("validity window " ++ validity.text ++ " out of range"))

/-- New claims about a device, which pin the certificate `pdcPem` and are valid from `createdOn` for
the span `validity`. -/
def issue (serialNumber pdcPem : String) (createdOn : Instant) (validity : Span) :
    Except FormatError Claims := do
  let expiresOn ← windowEnd createdOn validity
  let body ← (Armor.strip pdcPem).mapError fun fault => .pemError fault.message
  let claims : Claims :=
    { createdOn, expiresOn, serialNumber, assertion := none, pinnedDomainCert := body,
      revocationChecks := false }
  claims.validate
  return claims

def validity (c : Claims) : Span := c.createdOn.spanTo c.expiresOn

def pinnedPem (c : Claims) : String := Armor.add c.pinnedDomainCert

end Claims

end BootstrapVoucher
