import BootstrapVoucher.X509.Certificate

/-!
# Name constraints

An authority can restrict the names of the certificates below it: if there are permitted names of
some kind, a name of that kind must be below one of them, and it may not be below an excluded one.
The common names of a certificate without host names count as host names if they look like them.
-/

namespace BootstrapVoucher.X509

open Asn1

/-- Why a name does not respect name constraints. -/
inductive Violation
  | permitted
  | excluded
  /-- A restriction with a minimum or maximum depth. -/
  | depth
  /-- A restriction on names of a kind that cannot be compared. -/
  | constraintKind
  /-- A name that does not have the form of its kind. -/
  | nameForm
  /-- So many names or restrictions that they are not compared. -/
  | tooMany
deriving DecidableEq, Repr

namespace GeneralName

/-- The kind of a name, by the number of its tag. -/
def kind : GeneralName → Nat
  | other _ _ => 0
  | email _ => 1
  | host _ => 2
  | opaqueValue number _ => number
  | directory _ => 4
  | resource _ => 6
  | address _ => 7
  | registered _ => 8

/-- The type of internationalised mail addresses, which are compared with mail addresses. -/
def mailType : ObjectId := [1, 3, 6, 1, 5, 5, 7, 8, 9]

def effectiveKind : GeneralName → Nat
  | other type _ => if type = mailType then 1 else 0
  | name => name.kind

/-- Whether a restriction with the given base applies to a name. -/
def concerns (base name : GeneralName) : Bool :=
  base.kind == name.effectiveKind &&
    (match base, name with
      | other a _, other b _ => a == b
      | _, _ => true)

end GeneralName

namespace Restriction

/-- Whether two byte strings are the same but for the case of ASCII letters. -/
def sameText (a b : Bytes) : Bool := a.map Attribute.lower == b.map Attribute.lower

/-- Whether `b` ends in `base`, and is longer. -/
def endsBelow (base b : Bytes) : Bool :=
  base.length < b.length && sameText base (b.drop (b.length - base.length))

/-- Whether a host name is below a base: nothing or whole components stand before the base. -/
def isHostBelow (base host : Bytes) : Bool :=
  base.isEmpty || sameText base host ||
    endsBelow base host &&
      (base.head? == some 46 || host[host.length - base.length - 1]? == some 46)

/-- What stands before and after the last occurrence of a byte. -/
def splitLast? (x : UInt8) (b : Bytes) : Option (Bytes × Bytes) :=
  let back := b.reverse
  let after := back.takeWhile (· != x)
  match back.drop after.length with
  | _ :: before => some (before.reverse, after.reverse)
  | [] => none

/-- Whether a mail address is below a base: an address, a host, or the end of a host. -/
def isMailBelow (base mail : Bytes) : Except Violation Bool :=
  match splitLast? 64 mail, splitLast? 64 base with
  | none, _ => .error .nameForm
  | some (mailbox, host), some (baseMailbox, baseHost) =>
    if baseMailbox.isEmpty then .ok (sameText baseHost host)
    else if baseMailbox.length ≠ mailbox.length then .ok false
    else if baseMailbox.contains 0 ∨ mailbox.contains 0 then .error .nameForm
    else .ok (baseMailbox == mailbox && sameText baseHost host)
  | some (_, host), none =>
    if base.head? = some 46 then .ok (endsBelow base mail) else .ok (sameText base host)

/-- Whether an internationalised mail address, given by its written form, is below a base: its host
is the base. Before a base that starts with a point there must be another point. -/
def isWideMailBelow (base written : Bytes) : Except Violation Bool :=
  match readWith? (fun e => if e.tag = .utf8String then e.value? else none) written with
  | none => .error .nameForm
  | some mail =>
    match splitLast? 64 mail with
    | none => .error .nameForm
    | some (_, host) =>
      if base.contains 0 then .error .nameForm
      else if base.head? = some 46 then .ok (endsBelow (46 :: base) mail)
      else .ok (sameText base host)

def resourceHost? (resource : Bytes) : Option Bytes :=
  let afterScheme := resource.dropWhile (· != 58)
  if [58, 47, 47].isPrefixOf afterScheme then
    let rest := afterScheme.drop 3
    let stop : UInt8 := if rest.contains 58 then 58 else 47
    let host := rest.takeWhile (· != stop)
    if host.isEmpty then none else some host
  else none

/-- Whether the host of a resource is a base, or ends in one that starts with a point. -/
def isResourceBelow (base resource : Bytes) : Except Violation Bool :=
  match resourceHost? resource with
  | none => .error .nameForm
  | some host => .ok (if base.head? = some 46 then endsBelow base host else sameText base host)

/-- Whether a network address is in the range of a base, which is an address and a mask. -/
def isAddressBelow (base address : Bytes) : Except Violation Bool :=
  if address.length ≠ 4 ∧ address.length ≠ 16 ∨ base.length ≠ 8 ∧ base.length ≠ 32 then
    .error .nameForm
  else if address.length * 2 ≠ base.length then .ok false
  else
    let mask := base.drop address.length
    .ok (List.zipWith (· &&& ·) address mask == List.zipWith (· &&& ·) base mask)

def isBelow (base name : GeneralName) : Except Violation Bool :=
  match base, name with
  | .directory base, .directory name => .ok (base.canonical.isPrefixOf name.canonical)
  | .host base, .host name => .ok (isHostBelow base name)
  | .email base, .email name => isMailBelow base name
  | .email base, .other _ written => isWideMailBelow base written
  | .resource base, .resource name => isResourceBelow base name
  | .address base, .address name => isAddressBelow base name
  | _, _ => .error .constraintKind

/-- Whether a restriction leaves the depth below its base open. -/
def isPlain (subtree : Subtree) : Bool := subtree.maximum.isNone && subtree.minimum.getD 0 == 0

/-- Whether a name is below one of the given bases. -/
def isBelowAny (name : GeneralName) : List Subtree → Except Violation Bool
  | [] => .ok false
  | subtree :: rest => do
    if !isPlain subtree then .error .depth
    if ← isBelow subtree.base name then
      match rest.find? (!isPlain ·) with
      | some _ => .error .depth
      | none => .ok true
    else isBelowAny name rest

def check (constraints : NameConstraints) (name : GeneralName) : Except Violation Unit := do
  let permitted := constraints.permitted.filter (·.base.concerns name)
  if !permitted.isEmpty ∧ !(← isBelowAny name permitted) then .error .permitted
  checkExcluded name (constraints.excluded.filter (·.base.concerns name))
where
  /-- Succeeds on a name that is below none of the bases. -/
  checkExcluded (name : GeneralName) : List Subtree → Except Violation Unit
    | [] => .ok ()
    | subtree :: rest => do
      if !isPlain subtree then .error .depth
      if ← isBelow subtree.base name then .error .excluded
      checkExcluded name rest

def subjectMails (subject : Name) : List Attribute :=
  subject.attributes.filter (·.type == [1, 2, 840, 113549, 1, 9, 1])

/-- Whether every byte at a place between others keeps the rules for host names: components of
letters, digits, low lines and inner hyphens, with points between them. -/
def keepsHostForm : (before : Bytes) → Bytes → Bool
  | _, [] => true
  | before, x :: rest =>
    (Char.isAlphanum (Char.ofNat x.toNat) || x == 95 ||
      !before.isEmpty && !rest.isEmpty &&
        (x == 45 || x == 46 && rest.head? != some 46 && before.head? != some 45 &&
          rest.head? != some 45)) &&
      keepsHostForm (x :: before) rest

/-- The host name that a common name is, if it looks like one: it has two components at least. -/
def hostOfCommonName (a : Attribute) : Except Violation (Option Bytes) :=
  match a.text? with
  | none => .error .tooMany
  | some text =>
    let b := ((Bytes.ofText text).reverse.dropWhile (· == 0)).reverse
    if b.contains 0 then .error .nameForm
    else if keepsHostForm [] b && b.contains 46 then .ok (some b)
    else .ok none

/-- The largest product of the numbers of names and restrictions that are compared. -/
def comparisonLimit : Nat := 1 <<< 20

/-- Succeeds if the subject and the other names of a certificate respect the constraints. -/
def checkNames (c : Certificate) (names : List GeneralName) (constraints : NameConstraints) :
    Except Violation Unit := do
  let nameCount := c.subject.attributes.length + names.length
  let count := constraints.permitted.length + constraints.excluded.length
  if nameCount ≠ 0 ∧ comparisonLimit / nameCount < count then .error .tooMany
  if !c.subject.attributes.isEmpty then
    check constraints (.directory c.subject)
    (subjectMails c.subject).forM fun mail =>
      if mail.tag = 22 then check constraints (.email mail.value) else .error .nameForm
  names.forM (check constraints)

/-- Succeeds if the common names that look like host names respect the constraints. -/
def checkCommonNames (c : Certificate) (constraints : NameConstraints) : Except Violation Unit :=
  (c.subject.attributes.filter (·.type == [2, 5, 4, 3])).forM fun a => do
    match ← hostOfCommonName a with
    | some host => check constraints (.host host)
    | none => .ok ()

/-- Succeeds if the names of a certificate respect the constraints of one above it. Common names are
looked at only for the certificate of a signer, and only if it has no host name. -/
def checkBelow (c : Certificate) (isSigner : Bool) (names : List GeneralName)
    (constraints : NameConstraints) : Except Violation Unit := do
  checkNames c names constraints
  let hasHost := names.any fun
    | .host _ => true
    | _ => false
  if isSigner ∧ !hasHost then checkCommonNames c constraints

end Restriction

end BootstrapVoucher.X509
