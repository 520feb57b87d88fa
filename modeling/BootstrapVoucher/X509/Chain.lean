import BootstrapVoucher.X509.Restriction

/-!
# Chains of certificates

A chain leads from the certificate of a signer over certificates of issuers to an anchor. Anchors are
trusted as they are: their own signatures are not checked, and any of them may end a chain.
Certificates that came with the envelope may stand in between. Periods of validity do not count.
-/

namespace BootstrapVoucher.X509

/-- Why no chain to an anchor is accepted. -/
inductive Rejection
  | selfSignedSigner
  | selfSignedInChain
  | issuerMissing
  | tooLong
  | unhandledExtension
  | proxy
  | noAuthority
  | unusableKey
  | explicitCurve
  | pathTooLong
  | badSignature
  | violation (violation : Violation)
deriving DecidableEq, Repr

def Rejection.message : Rejection → String
  | selfSignedSigner => "self-signed certificate"
  | selfSignedInChain => "self-signed certificate in certificate chain"
  | issuerMissing => "unable to get local issuer certificate"
  | tooLong => "certificate chain too long"
  | unhandledExtension => "unhandled critical extension"
  | proxy => "proxy certificates not allowed, please set the appropriate flag"
  | noAuthority => "invalid CA certificate"
  | unusableKey | violation .tooMany => "unspecified certificate verification error"
  | explicitCurve => "certificate public key has explicit ECC parameters"
  | pathTooLong => "path length constraint exceeded"
  | badSignature => "certificate signature failure"
  | violation .permitted => "permitted subtree violation"
  | violation .excluded => "excluded subtree violation"
  | violation .depth => "name constraints minimum and maximum not supported"
  | violation .constraintKind => "unsupported name constraint type"
  | violation .nameForm => "unsupported or invalid name syntax"

/-- What comes of the search for a chain. -/
inductive Verdict
  | accepted
  | rejected (reason : Rejection)
  /-- The search had to be given up. -/
  | failed (failure : Failure)
deriving DecidableEq, Repr

namespace Chain

def lengthLimit : Nat := 101

/-- Whether the key of an issuer may be used to sign certificates. -/
def mayIssue (issuer : Certificate) : Bool :=
  issuer.traits?.any fun traits => traits.keyUsage.all (·.bit 5)

/-- Whether a certificate is signed with its own key. A certificate whose key or extensions cannot be
read does not tell. -/
def selfSigned? (c : Certificate) : Option Bool :=
  if c.publicKey?.isSome ∧ c.traits?.isSome then some c.isSelfSigned else none

/-- The first of the untrusted certificates that seems to have issued the last certificate of a chain
and is not in the chain itself. -/
def untrustedIssuer? (untrusted chain : List Certificate) (last : Certificate) : Option Certificate :=
  untrusted.find? fun issuer =>
    (!chain.contains issuer || last.isSelfIssued && chain.length == 1) &&
      issuer.isLikelyIssuer last

/-- A chain, signer first, that has been built as far as possible. -/
inductive Built
  | trusted (chain : List Certificate)
  | untrusted (chain : List Certificate)
  | failed

/-- Extends a chain whose certificates are untrusted so far, given in reverse, until an anchor is
found. An untrusted certificate that is taken is not considered again. -/
def build (anchors : List Certificate) :
    (fuel : Nat) → (untrusted : List Certificate) → (last : Certificate) →
      (before : List Certificate) → Built
  | 0, _, last, before => .untrusted (last :: before).reverse
  | fuel + 1, untrusted, last, before =>
    let chain := last :: before
    let anchor? := anchors.find? (·.isLikelyIssuer last)
    let extend : Built :=
      if selfSigned? last = some true ∨ lengthLimit < chain.length then .untrusted chain.reverse
      else
        match untrustedIssuer? untrusted chain last with
        | some issuer => build anchors fuel (untrusted.erase issuer) issuer chain
        | none => .untrusted chain.reverse
    if lengthLimit < chain.length then extend
    else
      match anchor?, selfSigned? last with
      | some _, none => .failed
      | some anchor, some false => .trusted (chain.reverse ++ [anchor])
      | some anchor, some true => if anchor = last then .trusted chain.reverse else extend
      | none, _ => extend

/-- Why a chain that could not be completed is rejected. -/
def incomplete (chain : List Certificate) : Rejection :=
  if lengthLimit < chain.length then .tooLong
  else if chain.getLast?.any (selfSigned? · == some true) then
    if chain.length = 1 then .selfSignedSigner else .selfSignedInChain
  else .issuerMissing

/-- How a certificate counts as that of an authority: fully, by older conventions, or not. -/
inductive Authority
  | full
  | tolerated
  | none
deriving DecidableEq, Repr

def authority (c : Certificate) : Authority :=
  match c.traits? with
  | Option.none => .none
  | some traits =>
    if !mayIssue c then .none
    else
      match traits.basic with
      | some basic => if basic.authority then .full else .none
      | Option.none =>
        let isOldType := traits.certificateType.any fun type => type.bit 5 || type.bit 6 || type.bit 7
        if c.version = 0 ∧ c.isSelfSigned ∨ traits.keyUsage.isSome ∨ isOldType then .tolerated
        else .none

/-- Whether a path limit forbids a number of authorities below a certificate. -/
def exceedsLimit (c : Certificate) (below : Nat) : Bool :=
  (c.traits?.bind (·.basic)).any fun basic => basic.pathLength.any fun limit => limit < (below : Int)

/-- Checks the extensions of the certificates of a chain from a position on; `below` is the number of
authorities that count in front of it. -/
def checkExtensions (length : Nat) : (position below : Nat) → List Certificate → Except Rejection Unit
  | _, _, [] => .ok ()
  | position, below, c :: rest => do
    if c.hasUnhandled then .error .unhandledExtension
    if c.isProxy then .error .proxy
    if 0 < position then
      match authority c with
      | .full => .ok ()
      | .tolerated => if position + 1 < length then .error .noAuthority
      | .none => .error .noAuthority
    if 1 < length then
      if c.publicKey?.isNone then .error .unusableKey
      if c.hasExplicitCurve then .error .explicitCurve
    if 1 < position ∧ exceedsLimit c below then .error .pathTooLong
    checkExtensions length (position + 1)
      (if 0 < position ∧ !c.isSelfIssued then below + 1 else below) rest

/-- Checks every signature of a chain by the key of the next certificate, the topmost one first. The
last certificate is not checked. -/
def checkSignatures : List Certificate → Except Rejection Unit
  | [] | [_] => .ok ()
  | c :: issuer :: rest => do
    checkSignatures (issuer :: rest)
    if !issuer.publicKey?.any (c.isSignedBy ·) then .error .badSignature

/-- Checks a certificate by the constraints of the certificates above it, the topmost one first. -/
def checkBelow (c : Certificate) (isSigner : Bool) : (above : List Certificate) → Except Rejection Unit
  | [] => .ok ()
  | issuer :: above => do
    checkBelow c isSigner above
    match issuer.traits?.bind (·.constraints) with
    | some constraints =>
      let names := (c.traits?.map (·.names)).getD []
      (Restriction.checkBelow c isSigner names constraints).mapError .violation
    | none => .ok ()

/-- Checks the names in a chain by the constraints of the certificates above them, the topmost names
first. Names that an authority gives to itself do not count, unless they are the signer's. -/
def checkNames : (isSigner : Bool) → List Certificate → Except Rejection Unit
  | _, [] => .ok ()
  | isSigner, c :: above => do
    checkNames false above
    if isSigner ∨ !c.isSelfIssued then checkBelow c isSigner above

def check (chain : List Certificate) : Verdict :=
  match checkExtensions chain.length 0 0 chain with
  | .error reason => .rejected reason
  | .ok () =>
    if chain.head?.any (·.publicKey?.isNone) then .failed .unknownKey
    else
      match checkSignatures chain, checkNames true chain with
      | .error reason, _ | .ok (), .error reason => .rejected reason
      | .ok (), .ok () => .accepted

/-- Whether a chain leads from the certificate of a signer to one of the anchors. The signer's
certificate can be an anchor itself. -/
def verify (anchors untrusted : List Certificate) (signer : Certificate) : Verdict :=
  match build anchors (untrusted.length + 1) untrusted signer [] with
  | .failed => .failed .unknownKey
  | .trusted chain => check chain
  | .untrusted chain =>
    if anchors.contains signer ∧ chain.length ≤ lengthLimit then check chain
    else .rejected (incomplete chain)

end Chain

end BootstrapVoucher.X509
