import BootstrapVoucher.Pem
import BootstrapVoucher.X509.Extension
import BootstrapVoucher.X509.Signature

/-!
# Certificates

A certificate binds a name to a public key under the signature of an issuer. Reading one does not
look into its key or its extensions; a certificate whose extensions contradict each other or cannot
be read is still a certificate, but it has no traits.
-/

namespace BootstrapVoucher.X509

open Asn1

/-- A certificate. -/
structure Certificate where
  /-- The distinguished form of the whole. -/
  der : Bytes
  /-- What the issuer has signed, as it was written. -/
  signedPart : Bytes
  version : Int
  serial : Int
  /-- The signature algorithm, as it stands inside and outside of the signed part. -/
  innerAlgorithm : AlgorithmId
  outerAlgorithm : AlgorithmId
  issuer : Name
  subject : Name
  keyAlgorithm : AlgorithmId
  keyBits : BitString
  extensions : List Extension
  signature : BitString
deriving DecidableEq, Repr

/-- What the extensions of a certificate say. -/
structure Traits where
  basic : Option BasicConstraints
  keyUsage : Option BitString
  certificateType : Option BitString
  names : List GeneralName
  constraints : Option NameConstraints
  isProxy : Bool
deriving DecidableEq, Repr

namespace Certificate

/-- Reads the part of a certificate that is signed. The other parts are filled in by the caller. -/
def readSignedPart? : Element → Option Certificate :=
  Fields.sequence? do
    let version ← Fields.optional [.context 0] fun e => e.wrapped? fun e => do
      guard (e.tag = .integer)
      e.integer?
    let serial ← Fields.integer
    let algorithm ← Fields.next AlgorithmId.read?
    let issuer ← Fields.next Name.read?
    let _ ← Fields.next <| Fields.sequence? do
      let _ ← Fields.next Element.time?
      let _ ← Fields.next Element.time?
    let subject ← Fields.next Name.read?
    let (keyAlgorithm, keyBits) ← Fields.next <| Fields.sequence? do
      let keyAlgorithm ← Fields.next AlgorithmId.read?
      let keyBits ← Fields.field .bitString Element.bitString?
      return (keyAlgorithm, keyBits)
    let _ ← Fields.optional [.context 1] Element.bitString?
    let _ ← Fields.optional [.context 2] Element.bitString?
    let extensions ← Fields.optional [.context 3] fun e =>
      e.wrapped? fun e => e.listOf? .sequence Extension.read?
    return {
      der := [], signedPart := [], version := version.getD 0, serial := serial,
      innerAlgorithm := algorithm, outerAlgorithm := algorithm, issuer := issuer,
      subject := subject, keyAlgorithm := keyAlgorithm, keyBits := keyBits,
      extensions := extensions.getD [], signature := ⟨0, []⟩ }

def read? : Element → Option Certificate :=
  Fields.sequence? do
    let (certificate, signedPart) ← Fields.next fun e => do return (← readSignedPart? e, e.bytes)
    let algorithm ← Fields.next AlgorithmId.read?
    let signature ← Fields.field .bitString Element.bitString?
    return { certificate with
      der := Write.sequence [signedPart, algorithm.write, Write.bits signature]
      signedPart := signedPart
      outerAlgorithm := algorithm
      signature := signature }

def ofBytes (b : Bytes) : Except Failure Certificate :=
  (readWith? read? b).elim (.error .badStructure) .ok

/-- The labels of the blocks of a PEM text that hold certificates. -/
def labels : List String := ["CERTIFICATE", "X509 CERTIFICATE"]

def ofPem (text : Bytes) : Except Failure Certificate := do
  ofBytes (← Pem.first labels text).data

def allOfPem (text : Bytes) : Except Failure (List Certificate) :=
  Pem.readAll labels (fun block => ofBytes block.data) (text.length + 1) text

/-- The public key, if it is of a known kind and well-formed. -/
def publicKey? (c : Certificate) : Option PublicKey :=
  PublicKey.ofBytes? c.keyAlgorithm c.keyBits.bytes

/-- Whether the parameters of the curve of the key are written out. -/
def hasExplicitCurve (c : Certificate) : Bool :=
  c.keyAlgorithm.id == ellipticCurveId &&
    ((c.keyAlgorithm.parameters.bind CurveChoice.read?).any (·.explicitly))

/-- The value of an extension, read by `read`. Reading fails if the extension is there twice or is
malformed, and gives nothing if it is not there. -/
def extension? {α : Type} (c : Certificate) (id : ObjectId) (read : Element → Option α) :
    Option (Option α) :=
  match c.extensions.filter (·.id == id) with
  | [] => some none
  | [e] => (readWith? read e.value).map some
  | _ => none

/-- Whether a bit string can say for what a key is used: one of its first sixteen bits is set. -/
def isUsage (s : BitString) : Bool := (s.bytes.take 2).any (· != 0)

/-- The value of an extension that is a string of bits or of bytes. -/
def readBits? (e : Element) : Option BitString := do
  guard (e.tag = .bitString)
  e.bitString?

@[inherit_doc readBits?]
def readOctets? (e : Element) : Option Bytes := do
  guard (e.tag = .octetString)
  e.text?

/-- What the extensions say, if they can be read and do not contradict each other. -/
def traits? (c : Certificate) : Option Traits := do
  let basic ← c.extension? Extension.basicConstraintsId BasicConstraints.read?
  guard (((basic.bind (·.pathLength)).getD 0) ≥ 0)
  let proxy ← c.extension? Extension.proxyId readProxy?
  let isAuthority := basic.any (·.authority)
  let hasNames := c.extensions.any fun e =>
    e.id == Extension.subjectNamesId || e.id == Extension.issuerNamesId
  guard (proxy.isNone ∨ !isAuthority ∧ !hasNames)
  let keyUsage ← c.extension? Extension.keyUsageId readBits?
  guard (keyUsage.all isUsage)
  let _ ← c.extension? Extension.purposesId fun e =>
    e.listOf? .sequence fun e => do
      guard (e.tag = .objectId)
      e.objectId?
  let certificateType ← c.extension? Extension.certificateTypeId readBits?
  let _ ← c.extension? Extension.subjectKeyId readOctets?
  let _ ← c.extension? Extension.authorityKeyId AuthorityKey.read?
  let names ← c.extension? Extension.subjectNamesId (·.listOf? .sequence GeneralName.read?)
  let constraints ← c.extension? Extension.nameConstraintsId NameConstraints.read?
  let _ ← c.extension? Extension.distributionPointsId (·.listOf? .sequence readDistributionPoint?)
  return {
    basic, keyUsage, certificateType, names := names.getD [], constraints,
    isProxy := proxy.isSome }

def hasUnhandled (c : Certificate) : Bool := c.extensions.any Extension.isUnhandled

/-- Whether the certificate was issued by the holder of another one. -/
def isProxy (c : Certificate) : Bool :=
  ((c.extension? Extension.proxyId readProxy?).getD none).isSome

def isSelfIssued (c : Certificate) : Bool := c.subject.sameAs c.issuer

/-- The mark of the key of a certificate, if it can be read. -/
def keyMark? (c : Certificate) : Option Bytes :=
  (c.extension? Extension.subjectKeyId readOctets?).join

/-- The marks of the issuer's key, if they can be read. -/
def authorityKey? (c : Certificate) : Option AuthorityKey :=
  (c.extension? Extension.authorityKeyId AuthorityKey.read?).join

/-- Whether a certificate fits the marks of an issuer's key that another one states. -/
def fits (issuer : Certificate) (stated : Option AuthorityKey) : Bool :=
  match stated with
  | none => true
  | some marks =>
    let name? := marks.issuer.findSome? fun
      | .directory name => some name
      | _ => none
    (match marks.key, issuer.keyMark? with
      | some a, some b => a == b
      | _, _ => true) &&
    marks.serial.all (· == issuer.serial) &&
    name?.all (·.sameAs issuer.issuer)

/-- Whether the key of a certificate is of the kind with which another one is signed. -/
def keySuits (issuer subject : Certificate) : Bool :=
  match issuer.publicKey?, SignatureScheme.ofId? subject.innerAlgorithm.id with
  | some key, some scheme => scheme.suits key
  | _, _ => false

/-- Whether names, marks and kind of key are those of the issuer of a certificate. -/
def looksLikeIssuer (issuer subject : Certificate) : Bool :=
  issuer.subject.sameAs subject.issuer && issuer.fits subject.authorityKey? &&
    issuer.keySuits subject

/-- Whether a certificate seems to be issued by the holder of another one. The signature is not
looked at, but the extensions of both must be readable. -/
def isLikelyIssuer (issuer subject : Certificate) : Bool :=
  issuer.looksLikeIssuer subject && issuer.traits?.isSome && subject.traits?.isSome

/-- Whether a certificate seems to be signed with its own key. -/
def isSelfSigned (c : Certificate) : Bool := c.looksLikeIssuer c

/-- Whether the signature of a certificate is by the holder of a key. -/
def isSignedBy (c : Certificate) (key : PublicKey) : Bool :=
  c.outerAlgorithm.sameAs c.innerAlgorithm &&
    key.verify c.outerAlgorithm c.signedPart c.signature.bytes

end Certificate

end BootstrapVoucher.X509
