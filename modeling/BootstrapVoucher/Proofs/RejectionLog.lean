import BootstrapVoucher.Proofs.VoucherLife

/-!
# The log of verification

Verification writes one record, a warning or the news of a verified voucher, and its answer decides
which. Whether a voucher is within its window is asked after that record has been written, and the
answer to this question is not logged: a verified voucher outside of its window is refused without a
warning, and the log still says that it was verified.
-/

namespace BootstrapVoucher.Proofs

open Time

variable {Cert Key Envelope : Type}

/-- The records of one level, oldest first. -/
def recordsOf (level : Level) (records : List Record) : List Record :=
  records.filter fun record => record.level = level

/-- The record says that a voucher was verified. -/
def SaysVerified (record : Record) : Prop :=
  "verified voucher for ".toList <+: record.text.toList

/-- The log agrees with the answer: a refusal is one warning that carries the text of the error, and no
record says that the voucher was verified; an acceptance is one debug record and no warning. -/
structure Reported (answer : Logged (Except VerificationError Claims)) : Prop where
  refused : ∀ e, answer.value = .error e →
    (∃ before after, recordsOf .warn answer.records = [⟨.warn, before ++ e.message ++ after⟩]) ∧
      ∀ record ∈ answer.records, ¬SaysVerified record
  accepted : ∀ c, answer.value = .ok c →
    (∃ text, recordsOf .debug answer.records = [⟨.debug, text⟩]) ∧ recordsOf .warn answer.records = []

/-- The warning about a rejected voucher. -/
def rejection (e : VerificationError) : Record :=
  ⟨.warn, "rejecting ownership voucher: " ++ e.message⟩

/-- The news of a verified voucher. -/
def verification (c : Claims) (fingerprints : List String) : Record :=
  ⟨.debug, "verified voucher for " ++ c.serialNumber ++ " signed by " ++
    String.intercalate ", " fingerprints⟩

lemma not_saysVerified_rejection (e : VerificationError) : ¬SaysVerified (rejection e) := by
  unfold SaysVerified rejection
  rw [String.toList_append]
  rintro ⟨rest, h⟩
  simp at h

lemma saysVerified_verification (c : Claims) (fingerprints : List String) :
    SaysVerified (verification c fingerprints) := by
  unfold SaysVerified verification
  simp only [String.toList_append, List.append_assoc]
  exact List.prefix_append _ _

lemma reported_rejection (e : VerificationError) : Reported ⟨.error e, [rejection e]⟩ := by
  refine ⟨fun _ h => ?_, fun _ h => ?_⟩
  · cases h
    refine ⟨⟨"rejecting ownership voucher: ", "", ?_⟩, ?_⟩
    · rw [String.append_empty]
      rfl
    · simpa using not_saysVerified_rejection e
  · cases h

lemma reported_verification (c : Claims) (fingerprints : List String) :
    Reported ⟨.ok c, [verification c fingerprints]⟩ := by
  refine ⟨fun e h => ?_, fun _ _ => ⟨⟨_, rfl⟩, rfl⟩⟩
  cases h

/-! ### What one call writes -/

section Calls

variable (P : Provider Cert Key Envelope) (pool : TrustPool Cert) (voucher : Bytes)

lemma verify_cases :
    (∃ e, verify P pool voucher = ⟨.error e, [rejection e]⟩) ∨
      ∃ c fingerprints, verify P pool voucher = ⟨.ok c, [verification c fingerprints]⟩ := by
  unfold verify
  cases Verification.examine P pool voucher with
  | error e => exact .inl ⟨e, rfl⟩
  | ok examined => exact .inr ⟨examined.1, examined.2.map P.fingerprint, rfl⟩

lemma verifyAt_records (at_ : Instant) :
    (verifyAt P pool voucher at_).records = (verify P pool voucher).records := rfl

variable {P pool voucher} {c : Claims} {at_ : Instant}

/-- Outside of the window there is an answer but no warning. -/
lemma not_reported_outside (verified : (verify P pool voucher).value = .ok c)
    (refused : ∃ e, (verifyAt P pool voucher at_).value = .error e) :
    ¬Reported (verifyAt P pool voucher at_) := by
  intro reported
  obtain ⟨e, refused⟩ := refused
  obtain ⟨⟨before, after, warned⟩, -⟩ := reported.refused e refused
  rw [verifyAt_records] at warned
  rcases verify_cases P pool voucher with ⟨_, h⟩ | ⟨_, _, h⟩
  · rw [h] at verified
    cases verified
  · rw [h] at warned
    cases warned

lemma verifyAt_outside (verified : (verify P pool voucher).value = .ok c)
    (outside : ¬(c.createdOn ≤ at_ ∧ at_ < c.expiresOn)) :
    ∃ e, (verifyAt P pool voucher at_).value = .error e := by
  by_cases early : at_ < c.createdOn
  · obtain ⟨detail, h⟩ := verifyAt_early verified early
    exact ⟨_, h⟩
  · have late : c.expiresOn ≤ at_ := not_lt.mp fun last => outside ⟨not_lt.mp early, last⟩
    obtain ⟨detail, h⟩ := verifyAt_late verified late
    exact ⟨_, h⟩

end Calls

/-- The answers of verification are reported. So are those about a voucher at an instant, except where the
voucher is verified and the instant is outside of its window: then it is refused, no warning is written,
and the one record there is says that the voucher was verified. -/
theorem refusals_are_reported_up_to_window (P : Provider Cert Key Envelope) (pool : TrustPool Cert)
    (voucher : Bytes) :
    Reported (verify P pool voucher) ∧ ∀ at_,
      (verifyAt P pool voucher at_).records = (verify P pool voucher).records ∧
      (Reported (verifyAt P pool voucher at_) ↔ ∀ c, (verify P pool voucher).value = .ok c →
        c.createdOn ≤ at_ ∧ at_ < c.expiresOn) ∧
      ∀ c, (verify P pool voucher).value = .ok c → ¬(c.createdOn ≤ at_ ∧ at_ < c.expiresOn) →
        (∃ e, (verifyAt P pool voucher at_).value = .error e) ∧
        recordsOf .warn (verifyAt P pool voucher at_).records = [] ∧
        ∃ record, (verifyAt P pool voucher at_).records = [record] ∧ SaysVerified record := by
  rcases verify_cases P pool voucher with ⟨e, h⟩ | ⟨c, fingerprints, h⟩
  · have refused : (verify P pool voucher).value = .error e := by rw [h]
    refine ⟨h ▸ reported_rejection e, fun at_ => ⟨rfl, ?_, fun d verified => ?_⟩⟩
    · have answer : verifyAt P pool voucher at_ = ⟨.error e, [rejection e]⟩ := by
        unfold verifyAt
        rw [h]
        rfl
      refine iff_of_true (answer ▸ reported_rejection e) fun d verified => ?_
      rw [refused] at verified
      cases verified
    · rw [refused] at verified
      cases verified
  · have verified : (verify P pool voucher).value = .ok c := by rw [h]
    have records : (verify P pool voucher).records = [verification c fingerprints] := by rw [h]
    refine ⟨h ▸ reported_verification c fingerprints, fun at_ => ⟨rfl, ⟨?_, ?_⟩, ?_⟩⟩
    · intro reported d hd
      by_contra outside
      exact not_reported_outside hd (verifyAt_outside hd outside) reported
    · intro within
      have inside := within c verified
      have answer : verifyAt P pool voucher at_ = ⟨.ok c, [verification c fingerprints]⟩ := by
        rw [← records, ← verifyAt_within verified inside.1 inside.2]
        rfl
      exact answer ▸ reported_verification c fingerprints
    · intro d hd outside
      rw [verifyAt_records, records]
      exact ⟨verifyAt_outside hd outside, rfl, _, rfl, saysVerified_verification c fingerprints⟩

/-- The voucher of 2017 is reported about when its year starts, but not when it has expired nor long before;
the empty one is always reported about. -/
theorem refusals_are_reported_in_2017 :
    ((verify plainProvider (TrustPool.empty.add 1) voucher2017).value = .ok issuedClaims ∧
      Reported (verifyAt plainProvider (TrustPool.empty.add 1) voucher2017 newYear2017) ∧
      ¬Reported (verifyAt plainProvider (TrustPool.empty.add 1) voucher2017 december2017) ∧
      ¬Reported (verifyAt plainProvider (TrustPool.empty.add 1) voucher2017 beforeYear0)) ∧
    ((verify plainProvider (TrustPool.empty.add 1) []).value = .error .empty ∧
      ∀ at_, Reported (verifyAt plainProvider (TrustPool.empty.add 1) [] at_)) := by
  obtain ⟨-, about⟩ :=
    refusals_are_reported_up_to_window plainProvider (TrustPool.empty.add 1) voucher2017
  obtain ⟨-, aboutNothing⟩ :=
    refusals_are_reported_up_to_window plainProvider (TrustPool.empty.add 1) []
  refine ⟨⟨verify_voucher2017, (about _).2.1.mpr ?_, fun h => ?_, fun h => ?_⟩, rfl, fun at_ =>
    (aboutNothing at_).2.1.mpr ?_⟩
  · intro c verified
    cases verify_voucher2017.symm.trans verified
    decide
  · exact absurd ((about _).2.1.mp h _ verify_voucher2017) (by decide)
  · exact absurd ((about _).2.1.mp h _ verify_voucher2017) (by decide)
  · intro c verified
    cases verified

/-- The voucher of 2017 has expired in December. It is refused, without a warning, and the log says that
it was verified. -/
theorem expired_voucher_is_refused_without_warning :
    (∃ detail, (verifyAt plainProvider (TrustPool.empty.add 1) voucher2017 december2017).value =
      .error (.expired detail)) ∧
    recordsOf .warn
      (verifyAt plainProvider (TrustPool.empty.add 1) voucher2017 december2017).records = [] ∧
    (∃ record ∈ (verifyAt plainProvider (TrustPool.empty.add 1) voucher2017 december2017).records,
      SaysVerified record) ∧
    ¬Reported (verifyAt plainProvider (TrustPool.empty.add 1) voucher2017 december2017) := by
  have late : issuedClaims.expiresOn ≤ december2017 := by decide
  obtain ⟨detail, expired⟩ := verifyAt_late verify_voucher2017 late
  refine ⟨⟨detail, expired⟩, ?_⟩
  rw [verifyAt_records]
  rcases verify_cases plainProvider (TrustPool.empty.add 1) voucher2017 with
    ⟨e, h⟩ | ⟨c, fingerprints, h⟩
  · have verified := verify_voucher2017
    rw [h] at verified
    cases verified
  · rw [h]
    exact ⟨rfl, ⟨_, List.mem_singleton_self _, saysVerified_verification c fingerprints⟩,
      not_reported_outside verify_voucher2017 ⟨_, expired⟩⟩

end BootstrapVoucher.Proofs
