import BootstrapVoucher.Proofs.Document
import BootstrapVoucher.Proofs.Verification
import BootstrapVoucher.Signing

/-!
# Signed vouchers are verified

A voucher that a vendor has signed is verified against the vendor's certificate, and the claims that
come out are the claims that went in, as far as their document shows them. The signer does not ask
whether the reader can read the years: if a time lies outside of the years 0 to 9999, the voucher is
signed and then refused. Nor does it ask whether the document tells the times from others: a leap
second within a minute is signed, and verified as the second after it.
-/

namespace BootstrapVoucher.Proofs

open Time Verification

variable {Cert Key Envelope : Type}

/-- What is relied on when a vendor signs: the envelope can be opened, names the vendor as its only
signer and holds what was signed, and the vendor's certificate is a chain to itself. -/
structure IsFaithful (P : Provider Cert Key Envelope) (vendor : KeyPair Cert Key) : Prop where
  reopened : ∀ {now content voucher},
    P.sign now vendor.certificate vendor.key content = .ok voucher →
      ∃ envelope, Opens P voucher envelope ∧
        P.locateSigners envelope (P.certificates envelope) = .ok [vendor.certificate] ∧
        P.checkChain [vendor.certificate] (P.certificates envelope) vendor.certificate = .accepted ∧
        P.authenticate envelope (P.certificates envelope) = .ok content

/-! ### What is signed -/

lemma signClaims_value (P : Provider Cert Key Envelope) (s : Signer Cert Key) (now : Instant)
    (claims : Claims) :
    (s.signClaims P now claims).value = Signer.envelopeOf P s.vendor now claims := by
  unfold Signer.signClaims
  cases Signer.envelopeOf P s.vendor now claims with
  | error e => rfl
  | ok voucher => rfl

lemma signAt_value (P : Provider Cert Key Envelope) (s : Signer Cert Key) (now : Instant)
    {serialNumber pdcPem : String} {createdOn : Instant} {claims : Claims}
    (made : s.claims serialNumber pdcPem createdOn = .ok claims) :
    (s.signAt P now serialNumber pdcPem createdOn).value =
      Signer.envelopeOf P s.vendor now claims := by
  unfold Signer.signAt
  rw [made]
  exact signClaims_value P s now claims

lemma signAt_eq_ok {P : Provider Cert Key Envelope} {s : Signer Cert Key} {now : Instant}
    {serialNumber pdcPem : String} {createdOn : Instant} {voucher : Bytes}
    (h : (s.signAt P now serialNumber pdcPem createdOn).value = .ok voucher) :
    ∃ claims, s.claims serialNumber pdcPem createdOn = .ok claims ∧
      Signer.envelopeOf P s.vendor now claims = .ok voucher := by
  cases made : s.claims serialNumber pdcPem createdOn with
  | error e =>
    unfold Signer.signAt at h
    rw [made] at h
    cases h
  | ok claims => exact ⟨claims, rfl, (signAt_value P s now made).symm.trans h⟩

/-- The canonical document of valid claims is what is put into the envelope. -/
lemma envelopeOf_eq_ok {P : Provider Cert Key Envelope} {vendor : KeyPair Cert Key} {now : Instant}
    {claims : Claims} {voucher : Bytes} (h : Signer.envelopeOf P vendor now claims = .ok voucher) :
    claims.validate = .ok () ∧
      P.sign now vendor.certificate vendor.key (Document.value claims).compact = .ok voucher := by
  unfold Signer.envelopeOf at h
  obtain ⟨-, -, h⟩ := bind_eq_ok.mp h
  obtain ⟨content, written, signed⟩ := bind_eq_ok.mp h
  obtain ⟨valid, rfl⟩ := encode_eq_ok.mp (mapError_eq_ok.mp written)
  exact ⟨valid, mapError_eq_ok.mp signed⟩

/-- A signer makes claims from what it is given and from its own settings. -/
lemma claims_eq_ok {s : Signer Cert Key} {serialNumber pdcPem : String} {createdOn : Instant}
    {claims : Claims} (h : s.claims serialNumber pdcPem createdOn = .ok claims) :
    ∃ expiresOn body, createdOn.add? s.validity = some expiresOn ∧ Armor.strip pdcPem = .ok body ∧
      claims = ⟨createdOn, expiresOn, serialNumber, s.assertion, body, s.revocationChecks⟩ := by
  obtain ⟨issued, hissued, h⟩ := bind_eq_ok.mp h
  cases h
  obtain ⟨expiresOn, hend, hissued⟩ := bind_eq_ok.mp hissued
  obtain ⟨body, stripped, hissued⟩ := bind_eq_ok.mp hissued
  obtain ⟨-, -, hissued⟩ := bind_eq_ok.mp hissued
  cases hissued
  refine ⟨expiresOn, body, ?_, mapError_eq_ok.mp stripped, rfl⟩
  unfold Claims.windowEnd at hend
  split at hend
  · rename_i added
    cases hend
    exact added
  · cases hend

/-! ### What is verified -/

/-- The answer for a voucher that was signed for these claims: they come back just if their years can be
read and no time is a leap second within a minute. In years that can be read it is the claims that the
document shows, unless their window runs backwards; else the content is refused. -/
structure AnswersFor (claims : Claims) (answer : Except VerificationError Claims) : Prop where
  exact : answer = .ok claims ↔ HasReadableYears claims ∧ claims.HasShownTimes
  shown : HasReadableYears claims → claims.createdOn.shown ≤ claims.expiresOn.shown →
    answer = .ok claims.shown
  refused : ¬(HasReadableYears claims ∧ claims.createdOn.shown ≤ claims.expiresOn.shown) →
    ∃ detail, answer = .error (.schemaInvalid detail)

section Agreement

variable {P : Provider Cert Key Envelope} {vendor : KeyPair Cert Key}
  {pool : TrustPool Cert} (faithful : IsFaithful P vendor)
  (hpool : pool.certificates = [vendor.certificate])

include faithful hpool

lemma authenticated_of_sign {now : Instant} {content voucher : Bytes}
    (signed : P.sign now vendor.certificate vendor.key content = .ok voucher) :
    Authenticated P pool voucher content := by
  obtain ⟨envelope, opens, located, chained, authentic⟩ := faithful.reopened signed
  refine ⟨envelope, [vendor.certificate], opens, located, by simp, ?_, authentic⟩
  intro signer hsigner
  rw [List.mem_singleton] at hsigner
  rw [hsigner, hpool]
  exact chained

/-- Verification of an envelope is the reading of the document that was put into it. -/
lemma verify_envelopeOf {now : Instant} {claims : Claims} {voucher : Bytes}
    (h : Signer.envelopeOf P vendor now claims = .ok voucher) :
    claims.validate = .ok () ∧ (verify P pool voucher).value =
      (Claims.decode (Document.value claims).compact).mapError fun e => .schemaInvalid e.message := by
  obtain ⟨valid, signed⟩ := envelopeOf_eq_ok h
  exact ⟨valid, verify_of_authenticated (authenticated_of_sign faithful hpool signed)⟩

lemma verify_envelopeOf_shown {now : Instant} {claims : Claims} {voucher : Bytes}
    (h : Signer.envelopeOf P vendor now claims = .ok voucher) (readable : HasReadableYears claims)
    (shown : claims.HasShownTimes) : (verify P pool voucher).value = .ok claims := by
  obtain ⟨valid, verified⟩ := verify_envelopeOf faithful hpool h
  rw [verified, decode_compact_shown valid readable shown, Except.mapError]

/-- What was signed is what was verified, as far as its document can be read. -/
lemma answersFor_envelopeOf {now : Instant} {claims : Claims} {voucher : Bytes}
    (h : Signer.envelopeOf P vendor now claims = .ok voucher) :
    AnswersFor claims (verify P pool voucher).value := by
  obtain ⟨valid, verified⟩ := verify_envelopeOf faithful hpool h
  rw [verified]
  refine ⟨?_, fun readable ordered => ?_, fun unfit => ?_⟩
  · rw [mapError_eq_ok, decode_compact_eq_self_iff valid]
  · rw [decode_compact_ordered valid readable ordered, Except.mapError]
  · by_cases readable : HasReadableYears claims
    · have reversed : claims.expiresOn.shown < claims.createdOn.shown :=
        not_not.mp fun ordered => unfit ⟨readable, instant_not_lt.mp ordered⟩
      obtain ⟨detail, unread⟩ := decode_compact_reversed valid readable reversed
      rw [unread, Except.mapError]
      exact ⟨_, rfl⟩
    · obtain ⟨detail, unread⟩ := decode_compact_signed readable
      rw [unread, Except.mapError]
      exact ⟨_, rfl⟩

end Agreement

/-- Whatever a signer signs, from ready claims or for a device, is verified against the signing
certificate and gives the claims that were signed, unless a time lies outside of the years 0 to 9999 or
is a leap second within a minute. Then the voucher gives the claims that its document shows, or it is
refused for its content. -/
theorem verify_signed (P : Provider Cert Key Envelope) (s : Signer Cert Key)
    (faithful : IsFaithful P s.vendor) (pool : TrustPool Cert)
    (hpool : pool.certificates = [s.vendor.certificate]) (now : Instant) (voucher : Bytes) :
    (∀ claims, (s.signClaims P now claims).value = .ok voucher →
      AnswersFor claims (verify P pool voucher).value) ∧
    ∀ serialNumber pdcPem createdOn,
      (s.signAt P now serialNumber pdcPem createdOn).value = .ok voucher →
        ∃ expiresOn body claims, createdOn.add? s.validity = some expiresOn ∧
          Armor.strip pdcPem = .ok body ∧
          claims = ⟨createdOn, expiresOn, serialNumber, s.assertion, body, s.revocationChecks⟩ ∧
          AnswersFor claims (verify P pool voucher).value := by
  constructor
  · intro claims signed
    rw [signClaims_value] at signed
    exact answersFor_envelopeOf faithful hpool signed
  · intro serialNumber pdcPem createdOn signed
    obtain ⟨claims, made, sealed⟩ := signAt_eq_ok signed
    obtain ⟨expiresOn, body, added, stripped, stated⟩ := claims_eq_ok made
    exact ⟨expiresOn, body, claims, added, stripped, stated,
      answersFor_envelopeOf faithful hpool sealed⟩

/-- The provider without cryptography can be relied on, with a zero as the end of the signers. -/
lemma isFaithful_plainProvider {vendor : KeyPair UInt8 UInt8} (h : vendor.certificate ≠ 0) :
    IsFaithful plainProvider vendor := by
  constructor
  intro now content voucher signed
  cases signed
  refine ⟨([vendor.certificate], content), ⟨by simp, ?_⟩, rfl, ?_, rfl⟩
  · simp [plainProvider, h]
  · simp [plainProvider]

/-- A signer of whom the certificate and the key have the number 1. -/
def plainSigner : Signer UInt8 UInt8 :=
  ((Signer.ofVendor ⟨1, 1⟩).withAssertion .logged).withRevocationChecks true

lemma envelopeOf_plain (claims : Claims) (now : Instant) (valid : claims.validate = .ok ()) :
    Signer.envelopeOf plainProvider plainSigner.vendor now claims =
      .ok (1 :: 0 :: (Document.value claims).compact) := by
  unfold Signer.envelopeOf
  rw [encode_eq_ok.mpr ⟨valid, rfl⟩]
  rfl

/-- What the signer states about the device 7. -/
def plainClaims (createdOn expiresOn : Instant) : Claims :=
  ⟨createdOn, expiresOn, "7", some .logged, "TUlJ", true⟩

/-- A year after the leap second; the second is not doubled in 2017. -/
def december2017 : Instant := instantOf 1514764799 250000000

/-- Ready claims and claims about a device, both from a leap second on; and ready claims from a leap
second within a minute on. -/
theorem verify_signed_leapSecond :
    IsFaithful plainProvider plainSigner.vendor ∧
    (∃ voucher,
      (plainSigner.signClaims plainProvider leapSecond2016 leapSecondClaims).value = .ok voucher ∧
      (verify plainProvider (TrustPool.empty.add 1) voucher).value = .ok leapSecondClaims) ∧
    (∃ voucher,
      (plainSigner.signClaims plainProvider leapSecond2016 halfMinuteClaims).value = .ok voucher ∧
      (verify plainProvider (TrustPool.empty.add 1) voucher).value = .ok halfMinuteClaims.shown) ∧
    ∃ voucher,
      (plainSigner.signAt plainProvider leapSecond2016 "7" (Armor.add "TUlJ") leapSecond2016).value =
        .ok voucher ∧
      (verify plainProvider (TrustPool.empty.add 1) voucher).value =
        .ok (plainClaims leapSecond2016 december2017) := by
  have faithful : IsFaithful plainProvider plainSigner.vendor := isFaithful_plainProvider (by decide)
  have agreement := verify_signed plainProvider plainSigner faithful (TrustPool.empty.add 1) rfl
    leapSecond2016
  have ready := (signClaims_value plainProvider plainSigner leapSecond2016 leapSecondClaims).trans
    (envelopeOf_plain leapSecondClaims leapSecond2016 rfl)
  have made : plainSigner.claims "7" (Armor.add "TUlJ") leapSecond2016 =
      .ok (plainClaims leapSecond2016 december2017) := rfl
  have signed := (signAt_value plainProvider plainSigner leapSecond2016 made).trans
    (envelopeOf_plain _ leapSecond2016 rfl)
  have within := (signClaims_value plainProvider plainSigner leapSecond2016 halfMinuteClaims).trans
    (envelopeOf_plain halfMinuteClaims leapSecond2016 rfl)
  obtain ⟨expiresOn, body, claims, added, stripped, rfl, answers⟩ :=
    (agreement _).2 "7" (Armor.add "TUlJ") leapSecond2016 signed
  cases added
  cases stripped
  exact ⟨faithful, ⟨_, ready, ((agreement _).1 leapSecondClaims ready).exact.mpr (by decide)⟩,
    ⟨_, within, ((agreement _).1 halfMinuteClaims within).shown (by decide) (by decide)⟩,
    _, signed, answers.exact.mpr (by decide)⟩

/-- The first instant of the year 9999. -/
def january9999 : Instant := instantOf 253370764800 0

/-- The first instant of the year 10000. -/
def january10000 : Instant := instantOf 253402300800 0

/-- A voucher that is valid for the whole year 9999 is signed, but never verified. -/
theorem verify_signed_year9999 :
    IsFaithful plainProvider plainSigner.vendor ∧
    ∃ voucher,
      (plainSigner.signAt plainProvider january9999 "7" (Armor.add "TUlJ") january9999).value =
        .ok voucher ∧
      ∀ claims, (verify plainProvider (TrustPool.empty.add 1) voucher).value ≠ .ok claims := by
  have faithful : IsFaithful plainProvider plainSigner.vendor := isFaithful_plainProvider (by decide)
  have made : plainSigner.claims "7" (Armor.add "TUlJ") january9999 =
      .ok (plainClaims january9999 january10000) := rfl
  have hpool : (TrustPool.empty.add 1).certificates = [plainSigner.vendor.certificate] := rfl
  have sealed := envelopeOf_plain (plainClaims january9999 january10000) january9999 rfl
  obtain ⟨detail, refused⟩ := (answersFor_envelopeOf faithful hpool sealed).refused (by decide)
  refine ⟨faithful, _, (signAt_value plainProvider plainSigner january9999 made).trans sealed, ?_⟩
  intro claims verified
  rw [refused] at verified
  cases verified

end BootstrapVoucher.Proofs
