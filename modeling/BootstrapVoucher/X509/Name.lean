import BootstrapVoucher.Asn1.Write

/-!
# Distinguished names

A name is a sequence of sets of attributes. It has a text for people, which flattens the sets, and a
canonical form by which names are compared: text is compared without regard to case, blank space at
its ends, the amount of blank space inside and the kind of string it is written as.
-/

namespace BootstrapVoucher.X509

open Asn1

/-- An attribute of a name: its type, and its value as a string with the tag it is written under. -/
structure Attribute where
  type : ObjectId
  tag : Nat
  value : Bytes
deriving DecidableEq, Repr

/-- A distinguished name. -/
structure Name where
  sets : List (List Attribute)
deriving DecidableEq, Repr

/-- The short names of attribute types and of the arcs above them, by the object identifier that they
have in common and the number in which they differ. -/
def attributeNames : List (ObjectId × List (Nat × String)) := [
  ([1], [(2, "member-body"), (3, "identified-organization")]),
  ([1, 2], [(156, "ISO-CN"), (804, "ISO-UA"), (840, "ISO-US")]),
  ([1, 3], [(6, "DOD"), (111, "ieee"), (132, "certicom-arc")]),
  ([1, 3, 6], [(1, "IANA")]),
  ([1, 3, 6, 1], [
    (1, "directory"), (2, "mgmt"), (3, "experimental"), (4, "private"), (5, "security"),
    (6, "snmpv2"), (7, "Mail")]),
  ([1, 3, 6, 1, 4], [(1, "enterprises")]),
  ([2], [(5, "X500"), (23, "international-organizations")]),
  ([2, 5], [(4, "X509"), (8, "X500algorithms"), (29, "id-ce")]),
  ([2, 5, 4], [
    (3, "CN"), (4, "SN"), (5, "serialNumber"), (6, "C"), (7, "L"), (8, "ST"), (9, "street"),
    (10, "O"), (11, "OU"), (12, "title"), (13, "description"), (14, "searchGuide"),
    (15, "businessCategory"), (16, "postalAddress"), (17, "postalCode"), (18, "postOfficeBox"),
    (19, "physicalDeliveryOfficeName"), (20, "telephoneNumber"), (21, "telexNumber"),
    (22, "teletexTerminalIdentifier"), (23, "facsimileTelephoneNumber"), (24, "x121Address"),
    (25, "internationaliSDNNumber"), (26, "registeredAddress"), (27, "destinationIndicator"),
    (28, "preferredDeliveryMethod"), (29, "presentationAddress"),
    (30, "supportedApplicationContext"), (31, "member"), (32, "owner"), (33, "roleOccupant"),
    (34, "seeAlso"), (35, "userPassword"), (36, "userCertificate"), (37, "cACertificate"),
    (38, "authorityRevocationList"), (39, "certificateRevocationList"),
    (40, "crossCertificatePair"), (41, "name"), (42, "GN"), (43, "initials"),
    (44, "generationQualifier"), (45, "x500UniqueIdentifier"), (46, "dnQualifier"),
    (47, "enhancedSearchGuide"), (48, "protocolInformation"), (49, "distinguishedName"),
    (50, "uniqueMember"), (51, "houseIdentifier"), (52, "supportedAlgorithms"),
    (53, "deltaRevocationList"), (54, "dmdName"), (65, "pseudonym"), (72, "role"),
    (97, "organizationIdentifier"), (98, "c3"), (99, "n3"), (100, "dnsName")]),
  ([0, 9], [(2342, "pss")]),
  ([0, 9, 2342], [(19200300, "ucl")]),
  ([0, 9, 2342, 19200300], [(100, "pilot")]),
  ([0, 9, 2342, 19200300, 100], [
    (1, "pilotAttributeType"), (3, "pilotAttributeSyntax"), (4, "pilotObjectClass"),
    (10, "pilotGroups")]),
  ([0, 9, 2342, 19200300, 100, 1], [
    (1, "UID"), (2, "textEncodedORAddress"), (3, "mail"), (4, "info"), (5, "favouriteDrink"),
    (6, "roomNumber"), (7, "photo"), (8, "userClass"), (9, "host"), (10, "manager"),
    (11, "documentIdentifier"), (12, "documentTitle"), (13, "documentVersion"),
    (14, "documentAuthor"), (15, "documentLocation"), (20, "homeTelephoneNumber"),
    (21, "secretary"), (22, "otherMailbox"), (23, "lastModifiedTime"), (24, "lastModifiedBy"),
    (25, "DC"), (26, "aRecord"), (27, "pilotAttributeType27"), (28, "mXRecord"),
    (29, "nSRecord"), (30, "sOARecord"), (31, "cNAMERecord"), (37, "associatedDomain"),
    (38, "associatedName"), (39, "homePostalAddress"), (40, "personalTitle"),
    (41, "mobileTelephoneNumber"), (42, "pagerTelephoneNumber"), (43, "friendlyCountryName"),
    (44, "uid"), (45, "organizationalStatus"), (46, "janetMailbox"),
    (47, "mailPreferenceOption"), (48, "buildingName"), (49, "dSAQuality"),
    (50, "singleLevelQuality"), (51, "subtreeMinimumQuality"), (52, "subtreeMaximumQuality"),
    (53, "personalSignature"), (54, "dITRedirect"), (55, "audio"), (56, "documentPublisher")]),
  ([1, 2, 840], [(10040, "X9-57"), (10045, "ansi-X9-62"), (113549, "rsadsi")]),
  ([1, 2, 840, 113549], [(1, "pkcs")]),
  ([1, 2, 840, 113549, 1], [
    (1, "pkcs1"), (3, "pkcs3"), (5, "pkcs5"), (7, "pkcs7"), (9, "pkcs9")]),
  ([1, 2, 840, 113549, 1, 9], [
    (1, "emailAddress"), (2, "unstructuredName"), (3, "contentType"), (4, "messageDigest"),
    (5, "signingTime"), (6, "countersignature"), (7, "challengePassword"),
    (8, "unstructuredAddress"), (9, "extendedCertificateAttributes"), (14, "extReq"),
    (15, "SMIME-CAPS"), (16, "SMIME"), (20, "friendlyName"), (21, "localKeyID")]),
  ([1, 3, 6, 1, 4, 1, 311, 60, 2, 1], [
    (1, "jurisdictionL"), (2, "jurisdictionST"), (3, "jurisdictionC")]),
  ([1, 2, 643, 100], [
    (1, "OGRN"), (3, "SNILS"), (5, "OGRNIP"), (111, "subjectSignTool"), (112, "issuerSignTool"),
    (113, "classSignTool")]),
  ([1, 2, 643, 3, 131, 1], [(1, "INN")])]

def attributeName? (type : ObjectId) : Option String := do
  let number ← type.getLast?
  let names ← attributeNames.lookup type.dropLast
  names.lookup number

namespace Attribute

/-- The text that units of `size` bytes write, each of them the number of a character. -/
def unitsText? (size : Nat) (b : Bytes) : Option String := do
  let characters ← (Bytes.pieces size b).mapM fun unit =>
    let n := Bytes.toNat unit
    if h : n.isValidChar then some (Char.ofNatAux n h) else none
  return String.ofList characters

/-- The text of a value. Only some kinds of strings have one. -/
def text? (a : Attribute) : Option String :=
  match a.tag with
  | 12 => Bytes.toText? a.value
  | 18 | 19 | 20 | 22 | 23 | 24 | 26 => unitsText? 1 a.value
  | 28 => unitsText? 4 a.value
  | 30 => unitsText? 2 a.value
  | _ => none

/-- Whether a value may have the given tag. -/
def isValueTag (number : Nat) : Bool :=
  [3, 7, 8, 9, 11, 12, 13, 14, 15, 16, 18, 19, 20, 22, 28, 29, 30].contains number

/-- Whether values with the given tag are compared as text. -/
def isTextTag (number : Nat) : Bool := [12, 19, 20, 22, 26, 28, 30].contains number

def isBlank (x : UInt8) : Bool := x == 32 || (9 ≤ x && x ≤ 13)

/-- A byte string with every run of blank space replaced by one space. -/
def collapse : (afterBlank : Bool) → Bytes → Bytes
  | _, [] => []
  | afterBlank, x :: rest =>
    if isBlank x then if afterBlank then collapse true rest else 32 :: collapse true rest
    else x :: collapse false rest

/-- A byte in lower case, if it is an ASCII letter. -/
def lower (x : UInt8) : UInt8 := if 65 ≤ x && x ≤ 90 then x + 32 else x

def canonicalText (text : String) : Bytes :=
  let b := ((Bytes.ofText text).dropWhile isBlank).reverse.dropWhile isBlank
  (collapse false b.reverse).map lower

/-- The written form of an attribute in which names are compared; there is none if its value is no
text but should be. -/
def canonical? (a : Attribute) : Option Bytes :=
  if isTextTag a.tag then do
    let text ← a.text?
    return Write.sequence [Write.objectId a.type, Write.element 12 (canonicalText text)]
  else some (Write.sequence [Write.objectId a.type, Write.element (UInt8.ofNat a.tag) a.value])

def write (a : Attribute) : Bytes :=
  let first := UInt8.ofNat (a.tag + if a.tag = 16 then 32 else 0)
  Write.sequence [Write.objectId a.type, Write.element first a.value]

def read? : Element → Option Attribute :=
  Fields.sequence? do
    let type ← Fields.objectId
    let value ← Fields.next fun e => do
      guard (e.tag.tagClass = .universal ∧ isValueTag e.tag.number)
      return (e.tag.number, ← e.value?)
    let entry : Attribute := ⟨type, value.1, value.2⟩
    let _ ← entry.canonical?
    return entry

/-- The attribute as it is shown: the short name of its type and its text. -/
def shown (a : Attribute) : String :=
  (attributeName? a.type).getD "UNDEF" ++ "=" ++ a.text?.getD ""

end Attribute

namespace Name

def read? (e : Element) : Option Name :=
  (e.listOf? .sequence fun set => set.listOf? .set Attribute.read?).map Name.mk

def write (name : Name) : Bytes :=
  Write.sequence (name.sets.map fun set => Write.element 0x31 (set.flatMap Attribute.write))

def attributes (name : Name) : List Attribute := name.sets.flatten

/-- The form in which names are compared. The attributes of a set have no order of their own. -/
def canonical (name : Name) : Bytes :=
  name.sets.flatMap fun set => Write.set (set.filterMap Attribute.canonical?)

def sameAs (a b : Name) : Bool := a.canonical == b.canonical

def text (name : Name) : String := String.intercalate ", " (name.attributes.map Attribute.shown)

end Name

end BootstrapVoucher.X509
