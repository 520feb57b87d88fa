import BootstrapVoucher.Proofs.PinnedTrust

/-!
# Three identities, kept apart

A server is put together from three key pairs and some vouchers. Only the server's own pair has to
please anybody: TLS must accept it, and nothing else can fail. The domain's certificate goes into the
trust pool and no other one does, the server's certificate is the one shown in TLS, and vouchers are
handed out as they were given, whatever they hold.
-/

namespace BootstrapVoucher.Proofs

open X509

variable {Cert Key Envelope : Type}

lemma ofKeyPair_eq_ok {P : Provider Cert Key Envelope} {pair : KeyPair Cert Key}
    {tls : TlsIdentity Cert Key} (h : TlsIdentity.ofKeyPair P pair = .ok tls) :
    tls = ⟨pair.certificate, pair.key⟩ := by
  unfold TlsIdentity.ofKeyPair at h
  split at h
  · cases h
  · cases h
    rfl

lemma ofKeyPair_eq_error {P : Provider Cert Key Envelope} {pair : KeyPair Cert Key}
    {e : AssemblyError} (h : TlsIdentity.ofKeyPair P pair = .error e) :
    ∃ detail, e = .tlsIdentityInvalid detail := by
  unfold TlsIdentity.ofKeyPair at h
  split at h
  · cases h
    exact ⟨_, rfl⟩
  · cases h

variable [DecidableEq Cert]

lemma certificates_singleton (c : Cert) : (TrustPool.empty.add c).certificates = [c] := rfl

/-- Certificates of the common standards are read back from what is printed. Wherever this holds for
the certificate of a domain, a server is put together exactly if TLS accepts its own key pair, and
fails only for that reason. It then trusts the certificate of the domain and no other one, shows its
own one, and hands out the last voucher that was given under an identifier; the identifiers are those
given, in increasing order. Every store of vouchers is one that was given so. -/
theorem assembly_keeps_identities_apart :
    (∀ c : Certificate, Certificate.ofBytes c.der = .ok c →
      PemReadsBack standardProvider c) ∧
    (∀ vouchers : VoucherStore, storeOf vouchers.entries = vouchers) ∧
    ∀ {Cert Key Envelope : Type} [DecidableEq Cert] (P : Provider Cert Key Envelope)
      (server domain vendorCa : KeyPair Cert Key) (given : List (String × Bytes)),
      PemReadsBack P domain.certificate →
      ((∃ artifacts, (Artifacts.assemble P server domain vendorCa (storeOf given)).value =
          .ok artifacts) ↔ ∃ tls, TlsIdentity.ofKeyPair P server = .ok tls) ∧
      (∀ e, (Artifacts.assemble P server domain vendorCa (storeOf given)).value = .error e ↔
        TlsIdentity.ofKeyPair P server = .error e) ∧
      (∀ e, (Artifacts.assemble P server domain vendorCa (storeOf given)).value = .error e →
        ∃ detail, e = .tlsIdentityInvalid detail) ∧
      ∀ artifacts, (Artifacts.assemble P server domain vendorCa (storeOf given)).value =
          .ok artifacts →
        (artifacts.server = server ∧ artifacts.domain = domain ∧ artifacts.vendorCa = vendorCa) ∧
        artifacts.tlsIdentity = ⟨server.certificate, server.key⟩ ∧
        artifacts.trustPool.certificates = [domain.certificate] ∧
        (∀ c, artifacts.trustPool.contains c = true ↔ c = domain.certificate) ∧
        (∀ id, artifacts.voucher? id = given.reverse.lookup id) ∧
        artifacts.voucherIds.Pairwise (· < ·) ∧
        ∀ id, id ∈ artifacts.voucherIds ↔ id ∈ given.map Prod.fst := by
  refine ⟨fun c parsed => (isReadBack_standardProvider parsed).pemReadsBack, storeOf_entries, ?_⟩
  intro Cert Key Envelope _ P server domain vendorCa given written
  have failed : ∀ e, (Artifacts.assemble P server domain vendorCa (storeOf given)).value = .error e ↔
      TlsIdentity.ofKeyPair P server = .error e := by
    intro e
    rw [assemble_value written]
    exact map_eq_error
  refine ⟨?_, failed, fun e h => ofKeyPair_eq_error ((failed e).mp h), fun artifacts h => ?_⟩
  · rw [assemble_value written]
    constructor
    · rintro ⟨artifacts, h⟩
      obtain ⟨tls, accepted, -⟩ := map_eq_ok.mp h
      exact ⟨tls, accepted⟩
    · rintro ⟨tls, accepted⟩
      exact ⟨_, map_eq_ok.mpr ⟨tls, accepted, rfl⟩⟩
  · rw [assemble_value written] at h
    obtain ⟨tls, accepted, rfl⟩ := map_eq_ok.mp h
    refine ⟨⟨rfl, rfl, rfl⟩, ofKeyPair_eq_ok accepted, certificates_singleton _, fun c => ?_,
      find?_storeOf given, ids_increasing _, fun id => mem_ids_storeOf⟩
    rw [TrustPool.contains, certificates_singleton, decide_eq_true_iff, List.mem_singleton]

/-- The server and the vendor share a certificate, the domain has another one, and two of the vouchers
are given under one identifier. -/
theorem assembly_keeps_identities_apart_shared :
    ∃ c other : Certificate, c.der = smallDer ∧ other.der = smallDer.set 6 2 ∧
      PemReadsBack (sealingProvider c) c ∧
      ∃ artifacts, (Artifacts.assemble (sealingProvider c) ⟨other, ()⟩ ⟨c, ()⟩ ⟨other, ()⟩
          (storeOf [("8", [1]), ("7", [2]), ("8", [3])])).value = .ok artifacts ∧
        artifacts.trustPool.certificates = [c] ∧ artifacts.trustPool.contains other = false ∧
        artifacts.tlsIdentity.certificate = other ∧ artifacts.voucher? "8" = some [3] ∧
        artifacts.voucher? "9" = none ∧ artifacts.voucherIds.Pairwise (· < ·) ∧
        "7" ∈ artifacts.voucherIds := by
  obtain ⟨c, hder, parsed⟩ := certificate_of_der (b := smallDer) (by decide +kernel)
  obtain ⟨other, hother, -⟩ := certificate_of_der (b := smallDer.set 6 2) (by decide +kernel)
  have written : PemReadsBack (sealingProvider c) c := assembly_keeps_identities_apart.1 c parsed
  have differ : other ≠ c := by
    rintro rfl
    rw [hder] at hother
    exact absurd hother (by decide)
  obtain ⟨assembled, -, -, separate⟩ := assembly_keeps_identities_apart.2.2 (sealingProvider c)
    ⟨other, ()⟩ ⟨c, ()⟩ ⟨other, ()⟩ [("8", [1]), ("7", [2]), ("8", [3])] written
  obtain ⟨artifacts, h⟩ := assembled.mpr ⟨⟨other, ()⟩, rfl⟩
  obtain ⟨-, tls, pool, trusts, handed, increasing, known⟩ := separate artifacts h
  refine ⟨c, other, hder, hother, written, artifacts, h, pool, ?_, congrArg (·.certificate) tls, ?_, ?_,
    increasing, (known "7").mpr (by simp)⟩
  · rw [← Bool.not_eq_true, trusts]
    exact differ
  · rw [handed]
    rfl
  · rw [handed]
    rfl

end BootstrapVoucher.Proofs
