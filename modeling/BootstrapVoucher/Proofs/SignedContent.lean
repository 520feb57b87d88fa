import BootstrapVoucher.Proofs.TamperedVoucher
import BootstrapVoucher.Proofs.Validity

/-!
# What is signed

A signer is set up step by step, and of each option the last setting counts. The options go into the
claims that the signer makes about a device; ready claims are signed as they are. Signing looks at the
key first, then at the claims, and then puts their document into an envelope with the vendor as its
only signer, so the first thing that is wrong is the one that is named.
-/

namespace BootstrapVoucher.Proofs

open Time

variable {Cert Key Envelope : Type}

/-! ### The options of a signer -/

/-- A step in setting up a signer. -/
inductive Setting
  | assertion (a : Assertion)
  | revocationChecks (b : Bool)
  | validity (v : Span)

namespace Setting

def apply (s : Signer Cert Key) : Setting → Signer Cert Key
  | assertion a => s.withAssertion a
  | revocationChecks b => s.withRevocationChecks b
  | validity v => s.withValidity v

def assertion? : Setting → Option Assertion
  | assertion a => some a
  | revocationChecks _ | validity _ => none

def revocationChecks? : Setting → Option Bool
  | revocationChecks b => some b
  | assertion _ | validity _ => none

def validity? : Setting → Option Span
  | validity v => some v
  | assertion _ | revocationChecks _ => none

/-- What the last of the settings of one option says, if there is one. -/
def last {α : Type} (option : Setting → Option α) (settings : List Setting) : Option α :=
  (settings.filterMap option).getLast?

end Setting

/-- The signer of a key pair, after some settings. -/
def configured (vendor : KeyPair Cert Key) (settings : List Setting) : Signer Cert Key :=
  settings.foldl Setting.apply (Signer.ofVendor vendor)

lemma last_append {α : Type} (option : Setting → Option α) (settings : List Setting)
    (setting : Setting) : Setting.last option (settings ++ [setting]) =
      (option setting).or (Setting.last option settings) := by
  unfold Setting.last
  rw [List.filterMap_append]
  cases h : option setting with
  | none => simp [h]
  | some a => simp [h]

lemma configured_eq (vendor : KeyPair Cert Key) (settings : List Setting) :
    configured vendor settings =
      { vendor
        assertion := Setting.last Setting.assertion? settings
        revocationChecks := (Setting.last Setting.revocationChecks? settings).getD false
        validity := (Setting.last Setting.validity? settings).getD (Span.ofDays 365) } := by
  induction settings using List.reverseRecOn with
  | nil => rfl
  | append_singleton settings setting ih =>
    have step : configured vendor (settings ++ [setting]) =
        Setting.apply (configured vendor settings) setting := by
      simp [configured]
    rw [step, ih, last_append, last_append, last_append]
    cases setting with
    | assertion a => rfl
    | revocationChecks b => rfl
    | validity v => rfl

/-! ### The order of refusals -/

/-- What is relied on when a vendor signs: the envelope can be opened, holds the content, and has the
vendor as its only signer. -/
structure SealsContent (P : Provider Cert Key Envelope) (contentOf : Envelope → Option Bytes)
    (vendor : Cert) : Prop where
  sealed : ∀ {now key content voucher}, P.sign now vendor key content = .ok voucher →
    voucher.length < 2 ^ 63 →
      ∃ envelope, Opens P voucher envelope ∧ contentOf envelope = some content ∧
        P.locateSigners envelope (P.certificates envelope) = .ok [vendor]

/-- What signing ready claims comes to. The key pair must match and be of a kind that can sign, the
claims must have a document, and what is put into the envelope is this document. -/
structure IsSigned (P : Provider Cert Key Envelope) (contentOf : Envelope → Option Bytes)
    (vendor : KeyPair Cert Key) (now : Instant) (claims : Claims)
    (answer : Except SigningError Bytes) : Prop where
  mismatch : P.owns vendor.certificate vendor.key = false →
    answer = .error (.keyMismatch (P.subject vendor.certificate))
  unsupported : P.owns vendor.certificate vendor.key = true →
    ∀ number, P.keyKind vendor.key = .other number →
      answer = .error (.unsupportedKey
        ("Id(" ++ toString number ++ ") key for " ++ P.subject vendor.certificate))
  undocumented : P.owns vendor.certificate vendor.key = true →
    P.keyKind vendor.key = .rsa ∨ P.keyKind vendor.key = .ellipticCurve →
      ∀ e, claims.encode = .error e → answer = .error (.encoding e)
  documented : P.owns vendor.certificate vendor.key = true →
    P.keyKind vendor.key = .rsa ∨ P.keyKind vendor.key = .ellipticCurve →
      ∀ content, claims.encode = .ok content →
        answer = (P.sign now vendor.certificate vendor.key content).mapError .cryptoError
  embedded : ∀ voucher, answer = .ok voucher → voucher.length < 2 ^ 63 →
    ∃ content envelope, claims.encode = .ok content ∧ Opens P voucher envelope ∧
      contentOf envelope = some content ∧
      P.locateSigners envelope (P.certificates envelope) = .ok [vendor.certificate]

section Order

variable {P : Provider Cert Key Envelope} {vendor : KeyPair Cert Key}

lemma checkKey_ok (owned : P.owns vendor.certificate vendor.key = true)
    (kind : P.keyKind vendor.key = .rsa ∨ P.keyKind vendor.key = .ellipticCurve) :
    Signer.checkKey P vendor = .ok () := by
  unfold Signer.checkKey KeyPair.isMatching
  rw [owned]
  rcases kind with kind | kind
  · rw [kind]
    rfl
  · rw [kind]
    rfl

lemma isSigned_envelopeOf {contentOf : Envelope → Option Bytes}
    (seals : SealsContent P contentOf vendor.certificate) (now : Instant) (claims : Claims) :
    IsSigned P contentOf vendor now claims (Signer.envelopeOf P vendor now claims) where
  mismatch differs := by
    unfold Signer.envelopeOf Signer.checkKey KeyPair.isMatching
    rw [differs]
    rfl
  unsupported owned number kind := by
    unfold Signer.envelopeOf Signer.checkKey KeyPair.isMatching
    rw [owned, kind]
    rfl
  undocumented owned kind e refused := by
    unfold Signer.envelopeOf
    rw [checkKey_ok owned kind, refused]
    rfl
  documented owned kind content written := by
    unfold Signer.envelopeOf
    rw [checkKey_ok owned kind, written]
    rfl
  embedded voucher signed short := by
    obtain ⟨valid, sealed⟩ := envelopeOf_eq_ok signed
    obtain ⟨envelope, opens, holds, alone⟩ := seals.sealed sealed short
    exact ⟨_, envelope, encode_eq_ok.mpr ⟨valid, rfl⟩, opens, holds, alone⟩

end Order

/-- Setting up has no part in the signing of ready claims. -/
lemma signClaims_of_vendor (P : Provider Cert Key Envelope) {s t : Signer Cert Key}
    (same : s.vendor = t.vendor) (now : Instant) (claims : Claims) :
    s.signClaims P now claims = t.signClaims P now claims := by
  unfold Signer.signClaims
  rw [same]

lemma signClaims_records (P : Provider Cert Key Envelope) (s : Signer Cert Key) (now : Instant)
    (claims : Claims) {e : SigningError} (h : (s.signClaims P now claims).value = .error e) :
    (s.signClaims P now claims).records = [] := by
  rw [signClaims_value] at h
  unfold Signer.signClaims
  rw [h]

/-- A signer signs the claims that it issues, with its own options put in. -/
lemma signAt_eq (P : Provider Cert Key Envelope) (s : Signer Cert Key) (now : Instant)
    (serialNumber pdcPem : String) (createdOn : Instant) :
    s.signAt P now serialNumber pdcPem createdOn =
      match Claims.issue serialNumber pdcPem createdOn s.validity with
      | .error e => ⟨.error (.encoding e), []⟩
      | .ok issued => s.signClaims P now
          { issued with assertion := s.assertion, revocationChecks := s.revocationChecks } := by
  unfold Signer.signAt Signer.claims
  cases Claims.issue serialNumber pdcPem createdOn s.validity with
  | error e => rfl
  | ok issued => rfl

/-! ### The standard provider -/

section Standard

open Asn1 X509 SignedData

/-- The signer that a new envelope names is found among the certificates of the envelope. -/
lemma locateSigners_envelopeWith (c : Certificate) (stated : List SingleAttribute)
    (signature content : Bytes) :
    (envelopeWith c (signerInfo c stated signature) content).locateSigners
      (envelopeWith c (signerInfo c stated signature) content).certificates = .ok [c] := by
  have found : (signerInfo c stated signature).locate? [c] = some c := by
    unfold SignerInfo.locate? signerInfo Name.sameAs
    simp
  unfold SignedData.Envelope.locateSigners envelopeWith
  simp only [List.isEmpty_cons, Bool.false_eq_true, if_false, List.mapM_cons, List.mapM_nil, found]
  rfl

/-- A certificate that has been read can be relied on with the standard provider. -/
lemma sealsContent_standardProvider {c : Certificate} {b : Bytes}
    (hread : Certificate.ofBytes b = .ok c) :
    SealsContent standardProvider SignedData.Envelope.content c := by
  obtain ⟨e, hc⟩ := read_of_ofBytes hread
  obtain ⟨name, hissuer⟩ := issuer_read hc
  constructor
  intro now key content voucher signed short
  obtain ⟨first, digits, stated, digest, order, readable, -, hsign⟩ := sign_eq now c key content
  have sealed := mapError_eq_ok.mp signed
  rw [hsign] at sealed
  obtain ⟨⟨algorithm, signature⟩, hsigned, rfl⟩ := map_eq_ok.mp sealed
  have opened := ofBytes_writeEnvelope hc
    (denotes_signer hissuer readable (denotes_signDigest hsigned)) short
  refine ⟨_, ⟨List.cons_ne_nil _ _, mapError_eq_ok.mpr opened⟩, rfl, mapError_eq_ok.mpr ?_⟩
  exact locateSigners_envelopeWith c stated signature content

end Standard

/-- However a signer is set up, ready claims are signed as they are: a key pair that does not match, a
key that cannot sign, and claims without a document are refused in this order, and otherwise the
document is put into an envelope whose only signer is the vendor. About a device the signer first
makes claims, which are refused before the key is looked at; then it signs these with its options, of
which the last settings count. What is relied on holds for the standard provider and every certificate
that has been read; a string of bytes in memory is shorter than `2 ^ 63`. -/
theorem signing_seals_the_document :
    (∀ (c : X509.Certificate) (b : Bytes), X509.Certificate.ofBytes b = .ok c →
      SealsContent standardProvider SignedData.Envelope.content c) ∧
    ∀ {Cert Key Envelope : Type} (P : Provider Cert Key Envelope)
      (contentOf : Envelope → Option Bytes) (vendor : KeyPair Cert Key) (settings : List Setting)
      (now : Instant), SealsContent P contentOf vendor.certificate →
      (∀ claims,
        (configured vendor settings).signClaims P now claims =
          (Signer.ofVendor vendor).signClaims P now claims ∧
        IsSigned P contentOf vendor now claims
          ((configured vendor settings).signClaims P now claims).value ∧
        ∀ e, ((configured vendor settings).signClaims P now claims).value = .error e →
          ((configured vendor settings).signClaims P now claims).records = []) ∧
      ∀ serialNumber pdcPem createdOn,
        (∀ e, Claims.issue serialNumber pdcPem createdOn
            ((Setting.last Setting.validity? settings).getD (Span.ofDays 365)) = .error e →
          (configured vendor settings).signAt P now serialNumber pdcPem createdOn =
            ⟨.error (.encoding e), []⟩) ∧
        ∀ issued, Claims.issue serialNumber pdcPem createdOn
            ((Setting.last Setting.validity? settings).getD (Span.ofDays 365)) = .ok issued →
          (configured vendor settings).signAt P now serialNumber pdcPem createdOn =
            (configured vendor settings).signClaims P now
              { issued with
                assertion := Setting.last Setting.assertion? settings
                revocationChecks :=
                  (Setting.last Setting.revocationChecks? settings).getD false } := by
  refine ⟨fun c b hread => sealsContent_standardProvider hread, ?_⟩
  intro Cert Key Envelope P contentOf vendor settings now seals
  have setUp := configured_eq vendor settings
  refine ⟨fun claims => ⟨?_, ?_, fun e => signClaims_records P _ now claims⟩, ?_⟩
  · exact signClaims_of_vendor P (congrArg Signer.vendor setUp) now claims
  · rw [signClaims_value, setUp]
    exact isSigned_envelopeOf seals now claims
  · intro serialNumber pdcPem createdOn
    constructor
    · intro e refused
      rw [signAt_eq, setUp]
      simp only [refused]
    · intro issued made
      rw [signAt_eq, setUp]
      simp only [made]

/-- Every option is set, two of them twice. -/
def repeatedSettings : List Setting :=
  [.validity (Span.ofDays 7), .assertion .logged, .revocationChecks true, .validity (Span.ofDays 365),
    .assertion .verified]

/-- A vendor with an RSA key signs for the device 7 what was set last. -/
theorem signing_seals_the_document_repeatedSettings :
    ∃ c : X509.Certificate, X509.Certificate.ofBytes vendorDer = .ok c ∧
      SealsContent standardProvider SignedData.Envelope.content c ∧
      ∃ voucher envelope,
        ((configured ⟨c, .rsa vendorKey⟩ repeatedSettings).signAt standardProvider leapSecond2016 "7"
          (Armor.add "TUlJ") leapSecond2016).value = .ok voucher ∧
        voucher.length < 2 ^ 63 ∧ Opens standardProvider voucher envelope ∧
        envelope.content = some (Document.value { issuedClaims with
          assertion := some .verified
          revocationChecks := true }).compact ∧
        standardProvider.locateSigners envelope envelope.certificates = .ok [c] := by
  have facts : (X509.Certificate.ofBytes vendorDer).toOption.map (fun c => (c.der.length,
      c.issuer.write.length, (Asn1.Write.integer c.serial).length, c.isOwnedBy (.rsa vendorKey))) =
        some (271, 19, 3, true) := by
    decide +kernel
  have large : 62 ≤ vendorKey.size ∧ vendorKey.size ≤ 64 := by decide +kernel
  let claims : Claims :=
    { issuedClaims with
      assertion := some .verified
      revocationChecks := true }
  have issued : issuedClaims.validate = .ok () := rfl
  have valid : claims.validate = .ok () :=
    validate_eq_ok.mpr (valid_withOptions (validate_eq_ok.mp issued) _ _)
  have size : (Document.value claims).compact.length < 1000 := by decide +kernel
  cases hread : X509.Certificate.ofBytes vendorDer with
  | error failure =>
    rw [hread] at facts
    cases facts
  | ok c =>
    rw [hread] at facts
    have known := Option.some.inj facts
    simp only [Prod.mk.injEq] at known
    obtain ⟨hder, hissuer, hserial, owned⟩ := known
    have seals := signing_seals_the_document.1 c vendorDer hread
    obtain ⟨ready, device⟩ := signing_seals_the_document.2 standardProvider
      SignedData.Envelope.content ⟨c, .rsa vendorKey⟩ repeatedSettings leapSecond2016 seals
    obtain ⟨same, signs, -⟩ := ready claims
    obtain ⟨voucher, signed, bound⟩ := signClaims_rsa owned large.1 valid leapSecond2016
    rw [← same] at signed
    have short : voucher.length < 2 ^ 63 := by omega
    obtain ⟨content, envelope, encoded, opens, holds, alone⟩ := signs.embedded voucher signed short
    obtain ⟨-, rfl⟩ := encode_eq_ok.mp encoded
    have made := (device "7" (Armor.add "TUlJ") leapSecond2016).2 issuedClaims rfl
    refine ⟨c, rfl, seals, voucher, envelope, ?_, short, opens, holds, alone⟩
    rw [made]
    exact signed

end BootstrapVoucher.Proofs
