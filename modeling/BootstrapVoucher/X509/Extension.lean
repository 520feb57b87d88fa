import BootstrapVoucher.X509.Name

/-!
# Extensions of certificates

What certificates say about themselves beyond names and keys: whether the holder may issue
certificates, for what the key may be used, which key issued the certificate, and to which names the
certificates below it are restricted.
-/

namespace BootstrapVoucher.X509

open Asn1

/-- An extension: what it is, whether it may be ignored, and its written value. -/
structure Extension where
  id : ObjectId
  critical : Bool
  value : Bytes
deriving DecidableEq, Repr

namespace Extension

def read? : Element → Option Extension :=
  Fields.sequence? do
    let id ← Fields.objectId
    let critical ← Fields.optional [.boolean] Element.boolean?
    let value ← Fields.octets
    return ⟨id, critical.getD false, value⟩

def subjectKeyId : ObjectId := [2, 5, 29, 14]
def keyUsageId : ObjectId := [2, 5, 29, 15]
def subjectNamesId : ObjectId := [2, 5, 29, 17]
def issuerNamesId : ObjectId := [2, 5, 29, 18]
def basicConstraintsId : ObjectId := [2, 5, 29, 19]
def nameConstraintsId : ObjectId := [2, 5, 29, 30]
def distributionPointsId : ObjectId := [2, 5, 29, 31]
def policiesId : ObjectId := [2, 5, 29, 32]
def policyMappingsId : ObjectId := [2, 5, 29, 33]
def authorityKeyId : ObjectId := [2, 5, 29, 35]
def policyConstraintsId : ObjectId := [2, 5, 29, 36]
def purposesId : ObjectId := [2, 5, 29, 37]
def inhibitPolicyId : ObjectId := [2, 5, 29, 54]
def addressBlocksId : ObjectId := [1, 3, 6, 1, 5, 5, 7, 1, 7]
def systemNumbersId : ObjectId := [1, 3, 6, 1, 5, 5, 7, 1, 8]
def proxyId : ObjectId := [1, 3, 6, 1, 5, 5, 7, 1, 14]
def noRevocationCheckId : ObjectId := [1, 3, 6, 1, 5, 5, 7, 48, 1, 5]
def certificateTypeId : ObjectId := [2, 16, 840, 1, 113730, 1, 1]

/-- The extensions that may be critical. -/
def understood : List ObjectId := [
  certificateTypeId, keyUsageId, subjectNamesId, basicConstraintsId, policiesId,
  distributionPointsId, purposesId, addressBlocksId, systemNumbersId, noRevocationCheckId,
  policyConstraintsId, proxyId, nameConstraintsId, policyMappingsId, inhibitPolicyId]

def isUnhandled (e : Extension) : Bool := e.critical && !understood.contains e.id

end Extension

/-- A name of one of many kinds. -/
inductive GeneralName
  | other (type : ObjectId) (value : Bytes)
  | email (text : Bytes)
  | host (text : Bytes)
  | directory (name : Name)
  | resource (text : Bytes)
  | address (bytes : Bytes)
  | registered (id : ObjectId)
  /-- A name of a kind whose values are not looked into. -/
  | opaqueValue (kind : Nat) (value : Bytes)
deriving DecidableEq, Repr

namespace GeneralName

/-- Reads a name; its tag says of which kind it is. -/
def read? (e : Element) : Option GeneralName := do
  guard (e.tag.tagClass = .context)
  match e.tag.number with
  | 0 =>
    Fields.all? (do
      let type ← Fields.objectId
      let value ← Fields.field (.context 0) fun e => e.wrapped? Element.any?
      return .other type value.bytes) e
  | 1 => return .email (← e.text?)
  | 2 => return .host (← e.text?)
  | 3 => do
    guard e.constructed
    return .opaqueValue 3 e.content
  | 4 => .directory <$> e.wrapped? Name.read?
  | 5 => do
    let _ ← e.children?
    return .opaqueValue 5 e.content
  | 6 => return .resource (← e.text?)
  | 7 => return .address (← e.text?)
  | 8 => return .registered (← e.objectId?)
  | _ => none

def readMany? (e : Element) : Option (List GeneralName) := e.members? read?

end GeneralName

/-- Whether the holder is an authority, and how many authorities may follow below. -/
structure BasicConstraints where
  authority : Bool
  pathLength : Option Int
deriving DecidableEq, Repr

def BasicConstraints.read? : Element → Option BasicConstraints :=
  Fields.sequence? do
    let authority ← Fields.optional [.boolean] Element.boolean?
    let pathLength ← Fields.optional [.integer] Element.integer?
    return ⟨authority.getD false, pathLength⟩

/-- By which marks the key of the issuer is known. -/
structure AuthorityKey where
  key : Option Bytes
  issuer : List GeneralName
  serial : Option Int
deriving DecidableEq, Repr

/-- Reads the marks of an issuer's key. -/
def AuthorityKey.read? : Element → Option AuthorityKey :=
  Fields.sequence? do
    let key ← Fields.optional [.context 0] Element.text?
    let issuer ← Fields.optional [.context 1] GeneralName.readMany?
    let serial ← Fields.optional [.context 2] Element.integer?
    return ⟨key, issuer.getD [], serial⟩

/-- The names below a base. -/
structure Subtree where
  base : GeneralName
  minimum : Option Int
  maximum : Option Int
deriving DecidableEq, Repr

/-- The names that certificates below an authority must and must not have. -/
structure NameConstraints where
  permitted : List Subtree
  excluded : List Subtree
deriving DecidableEq, Repr

def Subtree.read? : Element → Option Subtree :=
  Fields.sequence? do
    let base ← Fields.next GeneralName.read?
    let minimum ← Fields.optional [.context 0] Element.integer?
    let maximum ← Fields.optional [.context 1] Element.integer?
    return ⟨base, minimum, maximum⟩

def NameConstraints.read? : Element → Option NameConstraints :=
  Fields.sequence? do
    let permitted ← Fields.optional [.context 0] (·.members? Subtree.read?)
    let excluded ← Fields.optional [.context 1] (·.members? Subtree.read?)
    return ⟨permitted.getD [], excluded.getD []⟩

/-- Reads a place where lists of revoked certificates are found, of which only the form matters. -/
def readDistributionPoint? : Element → Option Unit :=
  Fields.sequence? do
    let _ ← Fields.optional [.context 0] fun e => e.wrapped? fun name =>
      if name.tag = .context 0 then (GeneralName.readMany? name).map fun _ => ()
      else if name.tag = .context 1 then do
        let _ ← name.members? Attribute.read?
        return ()
      else none
    let _ ← Fields.optional [.context 1] Element.bitString?
    let _ ← Fields.optional [.context 2] GeneralName.readMany?

/-- Reads the statement that a certificate was issued by the holder of another one. -/
def readProxy? : Element → Option Unit :=
  Fields.sequence? do
    let _ ← Fields.optional [.integer] Element.integer?
    let _ ← Fields.next <| Fields.sequence? do
      let _ ← Fields.objectId
      let _ ← Fields.optional [.octetString] Element.text?

end BootstrapVoucher.X509
