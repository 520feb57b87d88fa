import BootstrapVoucher.Proofs.ArmoredText
import BootstrapVoucher.Proofs.SignedVoucher

/-!
# One condition at every gate

Claims come into being by issue, by reading a document and by verifying a voucher, and they leave as
a document. All of these gates ask for one and the same condition, and none of them asks for more.
Claims that are refused are refused for the first part of the condition that they violate. The
condition does not look at the assertion and at the revocation flag, so a signer may set them
afterwards.
-/

namespace BootstrapVoucher.Proofs

open Time

variable {Cert Key Envelope : Type}

/-- The error for the first condition of validity that claims violate, in the order serial number,
window, certificate. -/
inductive FirstViolation (c : Claims) : FormatError → Prop
  | serial (missing : c.serialNumber = "") :
    FirstViolation c (.semanticError "empty serial-number")
  | window (present : c.serialNumber ≠ "") (reversed : ¬c.createdOn ≤ c.expiresOn) :
    FirstViolation c (.semanticError
      ("expires-on " ++ c.expiresOn.text ++ " precedes created-on " ++ c.createdOn.text))
  | body (present : c.serialNumber ≠ "") (ordered : c.createdOn ≤ c.expiresOn) {fault : Armor.Fault}
      (undecodable : Armor.decodeBody c.pinnedDomainCert = .error fault) :
    FirstViolation c (.pemError fault.message)

/-! ### The condition -/

lemma validate_eq_error {c : Claims} {e : FormatError} :
    c.validate = .error e ↔ FirstViolation c e := by
  unfold Claims.validate
  constructor
  · intro h
    split at h
    · rename_i missing
      cases h
      exact .serial missing
    · rename_i present
      split at h
      · rename_i reversed
        cases h
        exact .window present fun ordered => instant_not_lt.mpr ordered reversed
      · rename_i ordered
        split at h
        · rename_i fault undecodable
          cases h
          exact .body present (instant_not_lt.mp ordered) undecodable
        · cases h
  · intro h
    cases h with
    | serial missing => rw [if_pos missing]
    | window present reversed =>
      rw [if_neg present, if_pos (not_not.mp fun ordered => reversed (instant_not_lt.mp ordered))]
    | body present ordered undecodable =>
      rw [if_neg present, if_neg (instant_not_lt.mpr ordered), undecodable]

/-! ### The gates -/

lemma valid_of_issue {serialNumber pdcPem : String} {createdOn : Instant} {validity : Span} {c : Claims}
    (h : Claims.issue serialNumber pdcPem createdOn validity = .ok c) : c.Valid := by
  obtain ⟨expiresOn, -, h⟩ := bind_eq_ok.mp h
  obtain ⟨body, -, h⟩ := bind_eq_ok.mp h
  obtain ⟨⟨⟩, valid, h⟩ := bind_eq_ok.mp h
  cases h
  exact validate_eq_ok.mp valid

lemma valid_of_decode {s : Bytes} {c : Claims} (h : Claims.decode s = .ok c) : c.Valid := by
  obtain ⟨-, -, -, valid⟩ := decode_eq_ok.mp h
  exact validate_eq_ok.mp valid

lemma valid_of_verify {P : Provider Cert Key Envelope} {pool : TrustPool Cert} {voucher : Bytes}
    {c : Claims} (h : (verify P pool voucher).value = .ok c) : c.Valid := by
  rw [verify_value] at h
  obtain ⟨inspected, -, read⟩ := bind_eq_ok.mp h
  exact valid_of_decode (mapError_eq_ok.mp read)

lemma hasShownTimes_of_verify {P : Provider Cert Key Envelope} {pool : TrustPool Cert} {voucher : Bytes}
    {c : Claims} (h : (verify P pool voucher).value = .ok c) : c.HasShownTimes := by
  rw [verify_value] at h
  obtain ⟨inspected, -, read⟩ := bind_eq_ok.mp h
  exact hasShownTimes_of_decode (mapError_eq_ok.mp read)

lemma verifyAt_eq_ok {P : Provider Cert Key Envelope} {pool : TrustPool Cert} {voucher : Bytes}
    {at_ : Instant} {c : Claims} : (verifyAt P pool voucher at_).value = .ok c ↔
      (verify P pool voucher).value = .ok c ∧ c.checkAt at_ = .ok () := by
  constructor
  · intro h
    obtain ⟨claims, verified, h⟩ := bind_eq_ok.mp h
    obtain ⟨⟨⟩, checked, h⟩ := bind_eq_ok.mp h
    cases h
    exact ⟨verified, checked⟩
  · rintro ⟨verified, checked⟩
    exact bind_eq_ok.mpr ⟨c, verified, bind_eq_ok.mpr ⟨(), checked, rfl⟩⟩

/-- What is written is decided by the condition alone. -/
lemma encode_of_valid {c : Claims} (h : c.Valid) : c.encode = .ok (Document.value c).compact :=
  encode_eq_ok.mpr ⟨validate_eq_ok.mpr h, rfl⟩

lemma encode_eq_error {c : Claims} {e : FormatError} : c.encode = .error e ↔ FirstViolation c e := by
  unfold Claims.encode
  rw [bind_eq_error, ← validate_eq_error]
  constructor
  · rintro (invalid | ⟨-, -, ⟨⟩⟩)
    exact invalid
  · exact .inl

lemma valid_of_encode {c : Claims} {b : Bytes} (h : c.encode = .ok b) : c.Valid :=
  validate_eq_ok.mp (encode_eq_ok.mp h).1

/-- The options of a signer have no part in the condition. -/
lemma valid_withOptions {c : Claims} (h : c.Valid) (assertion : Option Assertion)
    (revocationChecks : Bool) :
    Claims.Valid { c with assertion := assertion, revocationChecks := revocationChecks } :=
  ⟨h.serial_ne, h.window, h.body⟩

lemma checkKey_ne_encoding (P : Provider Cert Key Envelope) (vendor : KeyPair Cert Key)
    (e : FormatError) : Signer.checkKey P vendor ≠ .error (.encoding e) := by
  intro h
  unfold Signer.checkKey at h
  split at h
  · cases h
  · split at h <;> cases h

/-- Valid claims are refused for the key or by the cryptography, but not for what they state. -/
lemma envelopeOf_ne_encoding (P : Provider Cert Key Envelope) (vendor : KeyPair Cert Key) (now : Instant)
    {c : Claims} (h : c.Valid) (e : FormatError) :
    Signer.envelopeOf P vendor now c ≠ .error (.encoding e) := by
  intro failed
  unfold Signer.envelopeOf at failed
  rw [encode_of_valid h] at failed
  rcases bind_eq_error.mp failed with failed | ⟨-, -, failed⟩
  · exact checkKey_ne_encoding P vendor e failed
  · obtain ⟨reason, -, ⟨⟩⟩ := mapError_eq_error.mp failed

/-- Once claims are issued to a signer, signing does not fail for what they state. -/
lemma signAt_ne_encoding (P : Provider Cert Key Envelope) (s : Signer Cert Key) (now : Instant)
    {serialNumber pdcPem : String} {createdOn : Instant} {c : Claims}
    (issued : Claims.issue serialNumber pdcPem createdOn s.validity = .ok c) (e : FormatError) :
    (s.signAt P now serialNumber pdcPem createdOn).value ≠ .error (.encoding e) := by
  have made : s.claims serialNumber pdcPem createdOn =
      .ok { c with assertion := s.assertion, revocationChecks := s.revocationChecks } := by
    unfold Signer.claims
    rw [issued, ok_bind]
    rfl
  rw [signAt_value P s now made]
  exact envelopeOf_ne_encoding P s.vendor now (valid_withOptions (valid_of_issue issued) _ _) e

/-- The pinned certificate of valid claims is framed so that it can be stripped again. -/
lemma strip_pinnedPem {c : Claims} (h : c.Valid) :
    Armor.strip c.pinnedPem = .ok c.pinnedDomainCert := by
  obtain ⟨der, decoded⟩ := h.body
  unfold Claims.pinnedPem
  rw [strip_add, (bodyFault_of_decodeBody decoded).1]

/-- Claims that are issued, read or verified are valid, and claims are written exactly when they are
valid; otherwise the first condition that they violate is named. What the options of a signer put
into issued claims makes no difference to that, and the certificate that valid claims pin can be
stripped of its frame. -/
theorem gates_admit_exactly_valid (P : Provider Cert Key Envelope) (c : Claims) :
    ((∀ serialNumber pdcPem createdOn validity,
        Claims.issue serialNumber pdcPem createdOn validity = .ok c → c.Valid) ∧
      (∀ s, Claims.decode s = .ok c → c.Valid) ∧
      (∀ pool voucher, (verify P pool voucher).value = .ok c → c.Valid) ∧
      ∀ pool voucher at_, (verifyAt P pool voucher at_).value = .ok c → c.Valid) ∧
    ((∃ b, c.encode = .ok b) ↔ c.Valid) ∧
    (∀ e, c.encode = .error e ↔ FirstViolation c e) ∧
    (∀ detail, c.encode ≠ .error (.syntaxError detail) ∧ c.encode ≠ .error (.missingField detail)) ∧
    (∀ (s : Signer Cert Key) serialNumber pdcPem createdOn,
      Claims.issue serialNumber pdcPem createdOn s.validity = .ok c →
        (∀ assertion revocationChecks, ∃ b, Claims.encode
          { c with assertion := assertion, revocationChecks := revocationChecks } = .ok b) ∧
        ∀ now e, (s.signAt P now serialNumber pdcPem createdOn).value ≠ .error (.encoding e)) ∧
    (c.Valid → Armor.strip c.pinnedPem = .ok c.pinnedDomainCert) := by
  refine ⟨⟨?_, ?_, ?_, ?_⟩, ?_, fun e => encode_eq_error, fun detail => ⟨?_, ?_⟩, ?_, strip_pinnedPem⟩
  · intro serialNumber pdcPem createdOn validity
    exact valid_of_issue
  · intro s
    exact valid_of_decode
  · intro pool voucher
    exact valid_of_verify
  · intro pool voucher at_ verified
    exact valid_of_verify (verifyAt_eq_ok.mp verified).1
  · constructor
    · rintro ⟨b, written⟩
      exact valid_of_encode written
    · intro valid
      exact ⟨_, encode_of_valid valid⟩
  · intro refused
    cases encode_eq_error.mp refused
  · intro refused
    cases encode_eq_error.mp refused
  · intro s serialNumber pdcPem createdOn issued
    refine ⟨fun assertion revocationChecks => ?_, fun now e => signAt_ne_encoding P s now issued e⟩
    exact ⟨_, encode_of_valid (valid_withOptions (valid_of_issue issued) assertion revocationChecks)⟩

/-- What is stated about the device 7 before the signer fills in its options. -/
def issuedClaims : Claims :=
  { plainClaims leapSecond2016 december2017 with
    assertion := none
    revocationChecks := false }

/-- Claims in which nothing is as it should be. -/
def brokenClaims : Claims :=
  { issuedClaims with
    expiresOn := beforeYear0
    serialNumber := ""
    pinnedDomainCert := "TUlJ\n" }

/-- The one set of claims passes all gates, and the other one is refused for its serial number. -/
theorem gates_admit_issuedClaims :
    (Claims.issue "7" (Armor.add "TUlJ") leapSecond2016 plainSigner.validity = .ok issuedClaims ∧
      Claims.decode (Document.value issuedClaims).compact = .ok issuedClaims ∧
      ∃ voucher, (verifyAt plainProvider (TrustPool.empty.add 1) voucher leapSecond2016).value =
        .ok issuedClaims) ∧
    issuedClaims.Valid ∧ (∃ b, issuedClaims.encode = .ok b) ∧
    (∀ e, (plainSigner.signAt plainProvider leapSecond2016 "7" (Armor.add "TUlJ") leapSecond2016).value ≠
      .error (.encoding e)) ∧
    Armor.strip issuedClaims.pinnedPem = .ok "TUlJ" ∧
    brokenClaims.encode = .error (.semanticError "empty serial-number") := by
  have issued : Claims.issue "7" (Armor.add "TUlJ") leapSecond2016 plainSigner.validity =
      .ok issuedClaims := rfl
  have valid : issuedClaims.validate = .ok () := rfl
  have read : Claims.decode (Document.value issuedClaims).compact = .ok issuedClaims :=
    decode_compact_shown valid (by decide) (by decide)
  have faithful : IsFaithful plainProvider plainSigner.vendor := isFaithful_plainProvider (by decide)
  have hpool : (TrustPool.empty.add 1).certificates = [plainSigner.vendor.certificate] := rfl
  have verified := verify_envelopeOf_shown faithful hpool
    (envelopeOf_plain issuedClaims leapSecond2016 valid) (by decide) (by decide)
  have verifiedAt : (verifyAt plainProvider (TrustPool.empty.add 1)
      (1 :: 0 :: (Document.value issuedClaims).compact) leapSecond2016).value = .ok issuedClaims :=
    verifyAt_eq_ok.mpr ⟨verified, rfl⟩
  obtain ⟨⟨byIssue, byDecode, -, byVerifyAt⟩, encoded, -, -, signed, stripped⟩ :=
    gates_admit_exactly_valid plainProvider issuedClaims
  obtain ⟨-, -, refused, -⟩ := gates_admit_exactly_valid plainProvider brokenClaims
  have isValid := byIssue _ _ _ _ issued
  exact ⟨⟨issued, read, _, verifiedAt⟩, isValid, encoded.mpr (byDecode _ read),
    (signed plainSigner _ _ _ issued).2 leapSecond2016, stripped (byVerifyAt _ _ _ verifiedAt),
    (refused _).mpr (.serial rfl)⟩

end BootstrapVoucher.Proofs
