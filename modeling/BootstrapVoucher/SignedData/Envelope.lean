import BootstrapVoucher.X509.Certificate

/-!
# Signed-data envelopes

An envelope holds content, certificates and the statements of signers, each of whom has signed either
the content or a set of attributes with the digest of the content. Envelopes of other types can be
told apart from bytes that are no envelope at all.
-/

namespace BootstrapVoucher.SignedData

open Asn1 X509
open Digest (Algorithm)

def dataId : ObjectId := [1, 2, 840, 113549, 1, 7, 1]
def signedId : ObjectId := [1, 2, 840, 113549, 1, 7, 2]
def envelopedId : ObjectId := [1, 2, 840, 113549, 1, 7, 3]
def signedEnvelopedId : ObjectId := [1, 2, 840, 113549, 1, 7, 4]
def digestedId : ObjectId := [1, 2, 840, 113549, 1, 7, 5]
def encryptedId : ObjectId := [1, 2, 840, 113549, 1, 7, 6]

def contentIds : List ObjectId :=
  [dataId, signedId, envelopedId, signedEnvelopedId, digestedId, encryptedId]

def messageDigestId : ObjectId := [1, 2, 840, 113549, 1, 9, 4]

/-- An attribute: its type and its values. -/
structure SignedAttribute where
  id : ObjectId
  values : List AnyValue
deriving DecidableEq, Repr

/-- The statement of a signer. -/
structure SignerInfo where
  issuer : Name
  serial : Int
  digestAlgorithm : AlgorithmId
  attributes : List SignedAttribute
  signature : Bytes
deriving DecidableEq, Repr

/-- An envelope. -/
structure Envelope where
  digestAlgorithms : List AlgorithmId
  /-- The content, if the envelope has one; content that is no string of bytes counts as empty. -/
  content : Option Bytes
  certificates : List Certificate
  signers : List SignerInfo
deriving DecidableEq, Repr

def SignedAttribute.read? : Element → Option SignedAttribute :=
  Fields.sequence? do
    let id ← Fields.objectId
    let values ← Fields.field .set (·.members? Element.any?)
    return ⟨id, values⟩

/-- Reads the issuer and the serial number by which a certificate is known. -/
def readCertificateId? : Element → Option (Name × Int) :=
  Fields.sequence? do
    let issuer ← Fields.next Name.read?
    let serial ← Fields.integer
    return (issuer, serial)

def SignerInfo.read? : Element → Option SignerInfo :=
  Fields.sequence? do
    let _ ← Fields.integer
    let (issuer, serial) ← Fields.next readCertificateId?
    let digestAlgorithm ← Fields.next AlgorithmId.read?
    let attributes ← Fields.optional [.context 0] (·.members? SignedAttribute.read?)
    let _ ← Fields.next AlgorithmId.read?
    let signature ← Fields.octets
    let _ ← Fields.optional [.context 1] (·.members? SignedAttribute.read?)
    return ⟨issuer, serial, digestAlgorithm, attributes.getD [], signature⟩

/-- Reads encrypted content, of which only the form matters. -/
def readEncrypted? : Element → Option Unit :=
  Fields.sequence? do
    let _ ← Fields.objectId
    let _ ← Fields.next AlgorithmId.read?
    let _ ← Fields.optional [.context 0] Element.text?
    return ()

/-- Reads what is meant for one recipient, of which only the form matters. -/
def readRecipient? : Element → Option Unit :=
  Fields.sequence? do
    let _ ← Fields.integer
    let _ ← Fields.next readCertificateId?
    let _ ← Fields.next AlgorithmId.read?
    let _ ← Fields.octets
    return ()

/-- Reads a list of revoked certificates, of which only the form matters. -/
def readRevocations? : Element → Option Unit :=
  Fields.sequence? do
    let _ ← Fields.next <| Fields.sequence? do
      let _ ← Fields.optional [.integer] Element.integer?
      let _ ← Fields.next AlgorithmId.read?
      let _ ← Fields.next Name.read?
      let _ ← Fields.next Element.time?
      let _ ← Fields.optional [.utcTime, .generalizedTime] Element.time?
      let _ ← Fields.optional [.sequence] (·.members? readRevocation?)
      let _ ← Fields.optional [.context 0] fun e =>
        e.wrapped? fun e => e.listOf? .sequence Extension.read?
    let _ ← Fields.next AlgorithmId.read?
    let _ ← Fields.field .bitString Element.bitString?
    return ()
where
  /-- Reads an entry of the list. -/
  readRevocation? : Element → Option Unit :=
    Fields.sequence? do
      let _ ← Fields.integer
      let _ ← Fields.next Element.time?
      let _ ← Fields.optional [.sequence] (·.members? Extension.read?)
      return ()

/-- What is inside a content-info. -/
inductive Content
  | data (bytes : Bytes)
  | signed (envelope : Envelope)
  | other
deriving DecidableEq, Repr

/-- The bytes of a content as what is signed: strings of bytes are, and nothing else is. -/
def Content.signedBytes : Content → Bytes
  | data bytes => bytes
  | signed _ | other => []

/-- Reads a content-info: a type and, if it is there, content of that type. Content of an unknown
type is taken as data if it is a string of bytes. `depth` bounds how deep they may be nested. -/
def readContent? : (depth : Nat) → Element → Option (ObjectId × Option Content)
  | 0, _ => none
  | depth + 1, e =>
    Fields.sequence? (do
      let id ← Fields.objectId
      let content ← Fields.optional [.context 0] fun e => e.wrapped? (readTyped? depth id)
      return (id, content)) e
where
  /-- Reads content of a type. -/
  readTyped? (depth : Nat) (id : ObjectId) (e : Element) : Option Content :=
    if id = dataId then
      if e.tag = .octetString then e.text?.map .data else none
    else if id = signedId then
      Fields.sequence? (do
        let _ ← Fields.integer
        let digestAlgorithms ← Fields.field .set (·.members? AlgorithmId.read?)
        let (_, content) ← Fields.next (readContent? depth)
        let certificates ← Fields.optional [.context 0] (·.members? Certificate.read?)
        let _ ← Fields.optional [.context 1] (·.members? readRevocations?)
        let signers ← Fields.field .set (·.members? SignerInfo.read?)
        return .signed {
          digestAlgorithms, content := content.map (·.signedBytes),
          certificates := certificates.getD [], signers }) e
    else if id = envelopedId then
      Fields.sequence? (do
        let _ ← Fields.integer
        let _ ← Fields.field .set (·.members? readRecipient?)
        let _ ← Fields.next readEncrypted?
        return .other) e
    else if id = signedEnvelopedId then
      Fields.sequence? (do
        let _ ← Fields.integer
        let _ ← Fields.field .set (·.members? readRecipient?)
        let _ ← Fields.field .set (·.members? AlgorithmId.read?)
        let _ ← Fields.next readEncrypted?
        let _ ← Fields.optional [.context 0] (·.members? Certificate.read?)
        let _ ← Fields.optional [.context 1] (·.members? readRevocations?)
        let _ ← Fields.field .set (·.members? SignerInfo.read?)
        return .other) e
    else if id = digestedId then
      Fields.sequence? (do
        let _ ← Fields.integer
        let _ ← Fields.next AlgorithmId.read?
        let _ ← Fields.next (readContent? depth)
        let _ ← Fields.octets
        return .other) e
    else if id = encryptedId then
      Fields.sequence? (do
        let _ ← Fields.integer
        let _ ← Fields.next readEncrypted?
        return .other) e
    else do
      let value ← e.value?
      return if e.tag = .octetString then .data value else .other

/-- How deep contents may be nested. -/
def nestingLimit : Nat := 30

/-- Reads an envelope. There is none if the bytes hold content of another type. -/
def Envelope.ofBytes (b : Bytes) : Except Failure (Option Envelope) :=
  match readWith? (readContent? nestingLimit) b with
  | none => .error .badStructure
  | some (_, some (.signed envelope)) => .ok (some envelope)
  | some _ => .ok none

end BootstrapVoucher.SignedData
