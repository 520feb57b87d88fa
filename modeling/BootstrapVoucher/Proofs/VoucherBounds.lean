import BootstrapVoucher.Proofs.TamperedVoucher

/-!
# Where a voucher ends

A voucher is one element, and of some bytes only the element with which they start is read as an
envelope. So a voucher that is cut anywhere is refused before a signature is looked at, and bytes that
follow a voucher have no part in the answer.
-/

namespace BootstrapVoucher.Proofs

open Asn1 Verification

variable {Cert Key Envelope : Type}

/-- Envelopes are read as one element: nothing is read from bytes that do not start with a complete
element, and what follows this element is ignored. Envelopes are written as one element. -/
structure ReadsOneElement (P : Provider Cert Key Envelope) : Prop where
  incomplete : ∀ {b}, Element.read? b = none → ∃ reason, P.openEnvelope b = .error reason
  first : ∀ {b e rest}, Element.read? b = some (e, rest) →
    ∀ tail, P.openEnvelope (b ++ tail) = P.openEnvelope b
  written : ∀ {now c key content voucher}, P.sign now c key content = .ok voucher →
    voucher.length < 2 ^ 63 → ∃ e, Element.read? voucher = some (e, [])

lemma read?_writeEnvelope {der signer content : Bytes}
    (short : Short (writeEnvelope der signer content)) :
    ∃ e, Element.read? (writeEnvelope der signer content) = some (e, []) := by
  have whole := (isElement_write (show IsFirst 0x30 by decide) (short_content short)).read []
  rw [List.append_nil] at whole
  exact ⟨_, whole⟩

lemma readsOneElement_standardProvider : ReadsOneElement standardProvider where
  incomplete := by
    intro b h
    have unread : SignedData.Envelope.ofBytes b = .error .badStructure := by
      simp [SignedData.Envelope.ofBytes, readWith?, h]
    exact ⟨_, mapError_eq_error.mpr ⟨_, unread, rfl⟩⟩
  first := by
    intro b e rest h tail
    change describe (SignedData.Envelope.ofBytes (b ++ tail)) =
      describe (SignedData.Envelope.ofBytes b)
    simp [SignedData.Envelope.ofBytes, readWith?, h, read?_append h tail]
  written := by
    intro now c key content voucher signed short
    obtain ⟨-, -, stated, digest, -, -, -, hsign⟩ := sign_eq now c key content
    have sealed := mapError_eq_ok.mp signed
    rw [hsign] at sealed
    obtain ⟨signature, -, rfl⟩ := map_eq_ok.mp sealed
    exact read?_writeEnvelope short

/-! ### Bytes before and after the end -/

/-- The answer and the log depend on the envelope alone. -/
lemma verify_congr {P : Provider Cert Key Envelope} {b b' : Bytes}
    (h : openVoucher P b = openVoucher P b') (pool : TrustPool Cert) :
    verify P pool b = verify P pool b' := by
  unfold verify examine
  rw [h]

section Bounds

variable {P : Provider Cert Key Envelope} (reads : ReadsOneElement P) {b : Bytes} {e : Element}

include reads

lemma verify_append {rest : Bytes} (h : Element.read? b = some (e, rest)) (pool : TrustPool Cert)
    (tail : Bytes) : verify P pool (b ++ tail) = verify P pool b := by
  have nonempty : b ≠ [] := by
    rintro rfl
    cases h
  have longer : b ++ tail ≠ [] := List.append_ne_nil_of_left_ne_nil nonempty _
  apply verify_congr
  unfold openVoucher
  rw [if_neg (by simpa using longer), if_neg (by simpa using nonempty), reads.first h tail]

lemma verify_incomplete (unread : Element.read? b = none) (nonempty : b ≠ []) (pool : TrustPool Cert) :
    ∃ detail, (verify P pool b).value = .error (.malformed detail) := by
  obtain ⟨reason, failed⟩ := reads.incomplete unread
  have closed : ¬∃ envelope, Opens P b envelope := by
    rintro ⟨envelope, -, opened⟩
    rw [failed] at opened
    cases opened
  obtain ⟨detail, malformed⟩ := (inspect_malformed_iff P pool b).mpr ⟨nonempty, closed⟩
  exact ⟨detail, by rw [verify_value, malformed, error_bind]⟩

end Bounds

lemma two_le_length_of_read? {b rest : Bytes} {e : Element} (h : Element.read? b = some (e, rest)) :
    2 ≤ b.length := by
  obtain ⟨-, header, read⟩ := header_of_read? h
  obtain ⟨front, inner, rfl, size, large, -⟩ := header_stable read
  rw [List.length_append]
  omega

/-- A signed voucher that is cut is refused: as empty if nothing is left, else as malformed, wherever
the cut is. A signed voucher with other bytes behind it is answered, and logged, as the voucher alone.
This is so for every trust pool and every provider that reads one element at a time, as the standard
provider does. A string of bytes in memory is shorter than `2 ^ 63`. -/
theorem voucher_counts_up_to_its_end :
    ReadsOneElement standardProvider ∧
    ∀ {Cert Key Envelope : Type} (P : Provider Cert Key Envelope) (s : Signer Cert Key),
      ReadsOneElement P → ∀ (now : Time.Instant) (claims : Claims) (voucher : Bytes),
        (s.signClaims P now claims).value = .ok voucher → voucher.length < 2 ^ 63 →
        ∀ pool : TrustPool Cert,
          (∀ n < voucher.length,
            (n = 0 → (verify P pool (voucher.take n)).value = .error .empty) ∧
            (n ≠ 0 → ∃ detail, (verify P pool (voucher.take n)).value =
              .error (.malformed detail))) ∧
          ∀ tail, verify P pool (voucher ++ tail) = verify P pool voucher := by
  refine ⟨readsOneElement_standardProvider, ?_⟩
  intro Cert Key Envelope P s reads now claims voucher signed short pool
  rw [signClaims_value] at signed
  obtain ⟨-, sealed⟩ := envelopeOf_eq_ok signed
  obtain ⟨e, whole⟩ := reads.written sealed short
  refine ⟨fun n hn => ⟨?_, fun some_ => ?_⟩, fun tail => verify_append reads whole pool tail⟩
  · rintro rfl
    rfl
  · have cut : voucher.drop n ≠ [] := by
      rw [ne_eq, List.drop_eq_nil_iff]
      omega
    have left : voucher.take n ≠ [] := by
      rw [← List.length_pos_iff, List.length_take]
      omega
    have unread := read?_prefix whole (List.take_append_drop n voucher).symm cut
    exact verify_incomplete reads unread left pool

/-- The voucher for the device 7 without its last byte, and with two zeros behind it. -/
theorem voucher_counts_up_to_its_end_device7 :
    ∃ (c : X509.Certificate) (voucher : Bytes), X509.Certificate.ofBytes vendorDer = .ok c ∧
      ((Signer.ofVendor ⟨c, .rsa vendorKey⟩).signClaims standardProvider leapSecond2016
        (plainClaims leapSecond2016 december2017)).value = .ok voucher ∧
      voucher.length < 2 ^ 63 ∧ 2 ≤ voucher.length ∧
      (verify standardProvider (TrustPool.empty.add c) (voucher.take 0)).value = .error .empty ∧
      (∃ detail, (verify standardProvider (TrustPool.empty.add c)
        (voucher.take (voucher.length - 1))).value = .error (.malformed detail)) ∧
      verify standardProvider (TrustPool.empty.add c) (voucher ++ [0, 0]) =
        verify standardProvider (TrustPool.empty.add c) voucher := by
  obtain ⟨c, voucher, hread, signed, short⟩ := exists_voucher_device7
  obtain ⟨reads, bounds⟩ := voucher_counts_up_to_its_end
  obtain ⟨cut, longer⟩ := bounds standardProvider (Signer.ofVendor ⟨c, .rsa vendorKey⟩) reads
    leapSecond2016 _ voucher signed short (TrustPool.empty.add c)
  have size : 2 ≤ voucher.length := by
    have sealed := (envelopeOf_eq_ok ((signClaims_value _ _ _ _).symm.trans signed)).2
    obtain ⟨e, whole⟩ := reads.written sealed short
    exact two_le_length_of_read? whole
  exact ⟨c, voucher, hread, signed, short, size, (cut 0 (by omega)).1 rfl,
    (cut (voucher.length - 1) (by omega)).2 (by omega), longer [0, 0]⟩

end BootstrapVoucher.Proofs
