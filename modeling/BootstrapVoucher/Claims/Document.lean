import BootstrapVoucher.Claims.Basic
import BootstrapVoucher.Json.Skip
import BootstrapVoucher.Json.Text

/-!
# Voucher documents

Claims are written as a JSON object inside a container object. The written form is fixed to the last
byte, because it is what gets signed. Reading accepts any JSON text with the same content: the last
member of a name counts, other members are ignored, and an absent assertion or revocation flag means
unset and false.
-/

namespace BootstrapVoucher

open Time Json

namespace Document

def container : String := "ietf-voucher:voucher"

/-- The members that must be present, in the order in which they are looked for. -/
def requiredNames : List String :=
  ["created-on", "expires-on", "serial-number", "pinned-domain-cert"]

/-- All members, in the order in which they are read. -/
def allNames : List String :=
  ["assertion", "created-on", "domain-cert-revocation-checks", "expires-on", "pinned-domain-cert",
    "serial-number"]

def claimsValue (c : Claims) : Value :=
  .object [
    ("created-on", .string (DateAndTime.format c.createdOn)),
    ("expires-on", .string (DateAndTime.format c.expiresOn)),
    ("serial-number", .string c.serialNumber),
    ("assertion", .string ((c.assertion.map Assertion.text).getD "")),
    ("pinned-domain-cert", .string c.pinnedDomainCert),
    ("domain-cert-revocation-checks", .bool c.revocationChecks)]

def value (c : Claims) : Value := .object [(container, claimsValue c)]

/-- The document of claims over several lines. It is written for any claims, valid or not. -/
def pretty (c : Claims) : Bytes := (value c).pretty

def describe : Value → String
  | .null => "null"
  | .bool b => if b then "boolean `true`" else "boolean `false`"
  | .number (.double isNegative x) =>
    "floating point `" ++ String.ofList (Number.double isNegative x).text ++ "`"
  | .number n => "integer `" ++ String.ofList n.text ++ "`"
  | .string s => "string " ++ Text.quoted s
  | .array _ => "sequence"
  | .object _ => "map"

def wrongKind (v : Value) (expected : String) : String :=
  "invalid type: " ++ describe v ++ ", expected " ++ expected

def readText : Value → Except String String
  | .string s => .ok s
  | v => .error (wrongKind v "a string")

def readBool : Value → Except String Bool
  | .bool b => .ok b
  | v => .error (wrongKind v "a boolean")

def readInstant (v : Value) : Except String Instant := do
  let s ← readText v
  match DateAndTime.parse s with
  | .ok t => .ok t
  | .error fault => .error ("bad date-and-time " ++ Text.quoted s ++ ": " ++ fault.message)

/-- Reads an assertion; the empty text means that there is none. -/
def readAssertion (v : Value) : Except String (Option Assertion) := do
  let s ← readText v
  if s = "" then return none
  match Assertion.ofText s with
  | .ok a => return some a
  | .error e => .error e.message

/-- Claims of which some members have been read. -/
structure Draft where
  createdOn : Option Instant
  expiresOn : Option Instant
  serialNumber : Option String
  assertion : Option (Option Assertion)
  pinnedDomainCert : Option String
  revocationChecks : Option Bool

namespace Draft

def empty : Draft := ⟨none, none, none, none, none, none⟩

/-- Fills a place that must still be free. -/
def once {α : Type} (name : String) (place : Option α) (read : Except String α) :
    Except String (Option α) :=
  if place.isSome then .error ("duplicate field `" ++ name ++ "`") else read.map some

/-- Reads one member; names of no claim are ignored. -/
def put (d : Draft) (member : String × Value) : Except String Draft := do
  let (name, v) := member
  if name = "created-on" then
    return { d with createdOn := ← once name d.createdOn (readInstant v) }
  else if name = "expires-on" then
    return { d with expiresOn := ← once name d.expiresOn (readInstant v) }
  else if name = "serial-number" then
    return { d with serialNumber := ← once name d.serialNumber (readText v) }
  else if name = "assertion" then
    return { d with assertion := ← once name d.assertion (readAssertion v) }
  else if name = "pinned-domain-cert" then
    return { d with pinnedDomainCert := ← once name d.pinnedDomainCert (readText v) }
  else if name = "domain-cert-revocation-checks" then
    return { d with revocationChecks := ← once name d.revocationChecks (readBool v) }
  else return d

def required {α : Type} (name : String) : Option α → Except String α
  | some a => .ok a
  | none => .error ("missing field `" ++ name ++ "`")

/-- The claims, once all members have been read. -/
def finish (d : Draft) : Except String Claims := do
  return {
    createdOn := ← required "created-on" d.createdOn
    expiresOn := ← required "expires-on" d.expiresOn
    serialNumber := ← required "serial-number" d.serialNumber
    assertion := d.assertion.getD none
    pinnedDomainCert := ← required "pinned-domain-cert" d.pinnedDomainCert
    revocationChecks := d.revocationChecks.getD false }

end Draft

/-- Reads claims from members, in the given order. -/
def readMembers (members : List (String × Value)) : Except String Claims := do
  (← members.foldlM Draft.put Draft.empty).finish

/-- The members of an object that are claims: of each name the last one, in the order of
`allNames`. -/
def claimMembers (v : Value) : List (String × Value) :=
  allNames.filterMap fun name => (v.member? name).map (name, ·)

/-! ### Reading token by token -/

/-- The members of claims, in the order in which they are written. -/
def writtenNames : List String :=
  ["created-on", "expires-on", "serial-number", "assertion", "pinned-domain-cert",
    "domain-cert-revocation-checks"]

namespace Draft

/-- Whether the member of the given name has been read. -/
def has (d : Draft) (name : String) : Bool :=
  ([("created-on", d.createdOn.isSome), ("expires-on", d.expiresOn.isSome),
    ("serial-number", d.serialNumber.isSome), ("assertion", d.assertion.isSome),
    ("pinned-domain-cert", d.pinnedDomainCert.isSome),
    ("domain-cert-revocation-checks", d.revocationChecks.isSome)].lookup name).getD false

/-- The claims, once all items of an array have been read. -/
def finishItems (d : Draft) : Except String Claims :=
  match writtenNames.findIdx? fun name => name ∈ requiredNames && !d.has name with
  | some n =>
    .error ("invalid length " ++ toString n ++ ", expected struct VoucherClaims with 6 elements")
  | none => d.finish

end Draft

/-- What comes next in an object, or in an array whose items stand for the members `wanted`. -/
inductive Slot
  | firstName
  | nextName
  | afterName (name : String)
  | member (name : String)
  | afterMember
  | firstItem (name : String) (wanted : List String)
  | nextItem (name : String) (wanted : List String)
  | afterItem (wanted : List String)
  /-- A comma has been read behind the last item that is wanted. -/
  | surplus

/-- What a token means in an object or an array. -/
inductive Move
  | to (slot : Slot)
  | named (name : String)
  /-- The token is the first one of the value of a member; `next` comes behind that value. -/
  | value (name : String) (next : Slot)
  | closed (isArray : Bool)

namespace Slot

def readName : Token → Except Fault Move
  | .string s => .ok (.named s)
  | .broken true fault => .error fault
  | _ => .error .keyNotString

def step : Slot → Token → Except Fault Move
  | .firstName, .closeBrace => .ok (.closed false)
  | .firstName, t => readName t
  | .nextName, .closeBrace => .error .trailingComma
  | .nextName, t => readName t
  | .afterName s, .colon => .ok (.to (.member s))
  | .afterName _, _ => .error .expectedColon
  | .member s, _ => .ok (.value s .afterMember)
  | .afterMember, .comma => .ok (.to .nextName)
  | .afterMember, .closeBrace => .ok (.closed false)
  | .afterMember, _ => .error .expectedCommaOrBrace
  | .firstItem _ _, .closeBracket => .ok (.closed true)
  | .firstItem s wanted, _ => .ok (.value s (.afterItem wanted))
  | .nextItem _ _, .closeBracket => .error .trailingComma
  | .nextItem s wanted, _ => .ok (.value s (.afterItem wanted))
  | .afterItem _, .closeBracket => .ok (.closed true)
  | .afterItem (s :: wanted), .comma => .ok (.to (.nextItem s wanted))
  | .afterItem (_ :: _), _ => .error .expectedCommaOrBracket
  | .afterItem [], .comma => .ok (.to .surplus)
  | .afterItem [], _ => .error .trailingText
  | .surplus, .closeBracket => .error .trailingComma
  | .surplus, _ => .error .trailingText

/-- What is wrong with a text that ends here. -/
def fault : Slot → Fault
  | .firstName | .afterName _ | .afterMember => .endInObject
  | .nextName | .member _ | .nextItem _ _ => .endInValue
  | .firstItem _ _ | .afterItem _ => .endInArray
  | .surplus => .trailingText

end Slot

/-- The value that starts with a token; an array or an object counts as empty. -/
def startOf : Token → Except Fault Value
  | .word .null => .ok .null
  | .word .true => .ok (.bool true)
  | .word .false => .ok (.bool false)
  | .number n => .ok (.number n)
  | .string s => .ok (.string s)
  | .openBracket => .ok (.array [])
  | .openBrace => .ok (.object [])
  | .broken _ fault => .error fault
  | _ => .error .expectedValue

/-- Opens a record, which is an object or an array of its members. -/
def openRecord (expected name : String) (wanted : List String) : Token → Except String Slot
  | .openBrace => .ok .firstName
  | .openBracket => .ok (.firstItem name wanted)
  | t => do .error (wrongKind (← (startOf t).mapError Fault.message) ("struct " ++ expected))

/-- How far a document has been read. -/
inductive Reader
  | start
  | document (slot : Slot) (found : Option Claims)
  /-- The claims are being read; `back` comes behind them in the document. -/
  | claims (slot : Slot) (draft : Draft) (back : Slot)
  | done (c : Claims)

namespace Reader

/-- How the reader goes on behind a value that counts for nothing, if that is what comes next: the value
of a member under a name that has no meaning. -/
def skipped? : Reader → Option Reader
  | .document (.member name) found =>
    if name = container then none else some (.document .afterMember found)
  | .claims (.member name) draft back =>
    if name ∈ writtenNames then none else some (.claims .afterMember draft back)
  | _ => none

def closeDocument (found : Option Claims) (isArray : Bool) : Except String Reader :=
  match found, isArray with
  | some c, _ => .ok (.done c)
  | none, false => .error ("missing field `" ++ container ++ "`")
  | none, true => .error "invalid length 0, expected struct OwnershipVoucher with 1 element"

/-- Goes on with a token, which must not start a value that counts for nothing. -/
def step : Reader → Token → Except String Reader
  | .start, t => return .document (← openRecord "OwnershipVoucher" container [] t) none
  | .document slot found, t => do
    match ← (slot.step t).mapError Fault.message with
    | .to slot => return .document slot found
    | .named name =>
      if name = container && found.isSome then .error ("duplicate field `" ++ name ++ "`")
      else return .document (.afterName name) found
    | .value _ next =>
      return .claims (← openRecord "VoucherClaims" "created-on" writtenNames.tail t) Draft.empty next
    | .closed isArray => closeDocument found isArray
  | .claims slot draft back, t => do
    match ← (slot.step t).mapError Fault.message with
    | .to slot => return .claims slot draft back
    | .named name =>
      if draft.has name then .error ("duplicate field `" ++ name ++ "`")
      else return .claims (.afterName name) draft back
    | .value name next =>
      return .claims next (← draft.put (name, ← (startOf t).mapError Fault.message)) back
    | .closed false => return .document back (some (← draft.finish))
    | .closed true => return .document back (some (← draft.finishItems))
  | .done _, _ => .error Fault.trailingText.message

/-- What a text that ends here holds. -/
def result : Reader → Except String Claims
  | .start => .error Fault.endInValue.message
  | .document slot _ | .claims slot _ _ => .error slot.fault.message
  | .done c => .ok c

/-- Reads a text to its end. -/
def run (r : Reader) (s : Bytes) : Except String Claims :=
  match r.skipped? with
  | some next =>
    match _ : skipValue s with
    | .error fault => .error fault.message
    | .ok rest => run next rest
  | none =>
    match s with
    | [] => r.result
    | x :: s =>
      if isBlank x then run r s
      else
        match r.step (readToken x s).1 with
        | .error reason => .error reason
        | .ok next => run next (readToken x s).2
termination_by s.length
decreasing_by
  · exact Skip.length_run ‹_›
  · simp
  · have := length_readToken x s
    simp only [List.length_cons]
    omega

end Reader

/-- Reads a document as it stands, without regard to the validity of its claims. Each token is
judged when it is met: no member may occur twice, and faults come in the order of the text. A value
that counts for nothing is passed over. -/
def read (s : Bytes) : Except String Claims := Reader.start.run s

end Document

namespace Claims

/-- The canonical document of valid claims, which is what gets signed. -/
def encode (c : Claims) : Except FormatError Bytes := do
  c.validate
  return (Document.value c).compact

/-- Reads valid claims from a document. What is told of a text that is no JSON leaves out the line and the
column of the fault. -/
def decode (s : Bytes) : Except FormatError Claims := do
  let document ← (Value.parse s).mapError fun fault => .syntaxError fault.message
  let some inner := document.member? Document.container | .error (.missingField Document.container)
  if !inner.isObject then .error (.syntaxError (Document.container ++ " MUST be object"))
  match Document.requiredNames.find? fun name => (inner.member? name).isNone with
  | some name => .error (.missingField name)
  | none =>
    let claims ← (Document.readMembers (Document.claimMembers inner)).mapError .syntaxError
    claims.validate
    return claims

end Claims

end BootstrapVoucher
