import BootstrapVoucher.Artifacts
import BootstrapVoucher.Proofs.PemReader
import BootstrapVoucher.Proofs.StoredVouchers
import BootstrapVoucher.StandardProvider

/-!
# What a server is put together from

A server of a domain trusts what is read back from the PEM text of the domain's certificate, so
assembly succeeds wherever printing and reading agree, and hands out the vouchers it was given. For
certificates of the common standards the agreement follows from the way PEM texts are read.
-/

namespace BootstrapVoucher.Proofs

open X509

variable {Cert Key Envelope : Type}

/-- What is relied on when a certificate is printed: its PEM text is one block with its DER text, and
reading undoes both. -/
structure IsReadBack (P : Provider Cert Key Envelope) (c : Cert) : Prop where
  printed : P.pem c = .ok (Bytes.ofText (Pem.write "CERTIFICATE" (P.der c)))
  reread : P.readCertificates (Bytes.ofText (Pem.write "CERTIFICATE" (P.der c))) = .ok [c]
  parsed : P.certificateOfDer (P.der c) = .ok c

/-- The part of it that a trust pool relies on: the certificate has a PEM text, and this certificate alone
is read from it. -/
def PemReadsBack (P : Provider Cert Key Envelope) (c : Cert) : Prop :=
  ∃ pem, P.pem c = .ok (Bytes.ofText pem) ∧ P.readCertificates (Bytes.ofText pem) = .ok [c]

lemma IsReadBack.pemReadsBack {P : Provider Cert Key Envelope} {c : Cert} (h : IsReadBack P c) :
    PemReadsBack P c :=
  ⟨_, h.printed, h.reread⟩

lemma certificatePem_eq_ok {P : Provider Cert Key Envelope} {pair : KeyPair Cert Key} {pem : String} :
    pair.certificatePem P = .ok pem ↔ P.pem pair.certificate = .ok (Bytes.ofText pem) := by
  unfold KeyPair.certificatePem
  rw [bind_eq_ok]
  constructor
  · rintro ⟨bytes, written, h⟩
    rw [mapError_eq_ok.mp written]
    split at h
    · rename_i text read
      cases h
      rw [Bytes.ofText_of_toText? read]
    · cases h
  · intro written
    refine ⟨_, mapError_eq_ok.mpr written, ?_⟩
    rw [Bytes.toText?_ofText]
    rfl

lemma isReadBack_standardProvider {c : Certificate} (h : Certificate.ofBytes c.der = .ok c) :
    IsReadBack standardProvider c := by
  have hder : c.der ≠ [] := by
    intro hempty
    rw [hempty] at h
    cases h
  have hread : Certificate.allOfPem (Bytes.ofText (Pem.write "CERTIFICATE" c.der)) = .ok [c] := by
    have hlabel : "CERTIFICATE" ∈ Certificate.labels := List.mem_cons_self
    unfold Certificate.allOfPem
    rw [readAll_write hlabel _ hder, h]
    rfl
  refine ⟨rfl, ?_, ?_⟩
  · change describe (Certificate.allOfPem (Bytes.ofText (Pem.write "CERTIFICATE" c.der))) = .ok [c]
    rw [hread]
    rfl
  · change describe (Certificate.ofBytes c.der) = .ok c
    rw [h]
    rfl

/-! ### Trust pools -/

variable [DecidableEq Cert]

lemma offer_eq (pool : TrustPool Cert) (c : Cert) :
    pool.offer c = (!pool.contains c, pool.add c) := by
  unfold TrustPool.add TrustPool.offer TrustPool.contains
  split
  · rename_i known
    simp [known]
  · rename_i missing
    simp [missing]

lemma mem_add {pool : TrustPool Cert} {a c : Cert} :
    c ∈ (pool.add a).certificates ↔ c ∈ pool.certificates ∨ c = a := by
  unfold TrustPool.add TrustPool.offer
  split
  · rename_i known
    constructor
    · exact .inl
    · rintro (h | rfl)
      · exact h
      · exact known
  · simp

lemma size_offer (pool : TrustPool Cert) (c : Cert) :
    (pool.offer c).2.size = pool.size + (pool.offer c).1.toNat := by
  unfold TrustPool.offer TrustPool.size
  split <;> simp

/-- The count is what the pool grows by, with repetitions inside of the list and against what was
there before left out alike. -/
lemma size_offerAll (pool : TrustPool Cert) (certificates : List Cert) :
    (pool.offerAll certificates).2.size = pool.size + (pool.offerAll certificates).1 := by
  induction certificates generalizing pool with
  | nil => rfl
  | cons c certificates ih =>
    have grown := ih (pool.offer c).2
    have first := size_offer pool c
    simp only [TrustPool.offerAll]
    omega

lemma mem_offerAll {pool : TrustPool Cert} {certificates : List Cert} {c : Cert} :
    c ∈ (pool.offerAll certificates).2.certificates ↔ c ∈ pool.certificates ∨ c ∈ certificates := by
  induction certificates generalizing pool with
  | nil => simp [TrustPool.offerAll]
  | cons a certificates ih =>
    have hstep : (pool.offerAll (a :: certificates)).2 = ((pool.add a).offerAll certificates).2 := rfl
    rw [hstep, ih, mem_add, List.mem_cons, or_assoc]

lemma offerPem_of_read {P : Provider Cert Key Envelope} (pool : TrustPool Cert) {bundle : Bytes}
    {certificates : List Cert} (read : P.readCertificates bundle = .ok certificates) :
    pool.offerPem P bundle = .ok (pool.offerAll certificates) := by
  unfold TrustPool.offerPem
  rw [read]
  rfl

lemma ofPem_of_read {P : Provider Cert Key Envelope} {bundle : Bytes} {certificates : List Cert}
    (read : P.readCertificates bundle = .ok certificates) (hne : certificates ≠ []) :
    TrustPool.ofPem P bundle = .ok (TrustPool.empty.offerAll certificates).2 := by
  obtain ⟨c, hc⟩ := List.exists_mem_of_ne_nil certificates hne
  have hmem : c ∈ (TrustPool.empty.offerAll certificates).2.certificates := mem_offerAll.mpr (.inr hc)
  have grown : (TrustPool.empty.offerAll certificates).2.size = 0 + _ :=
    size_offerAll TrustPool.empty certificates
  have filled : (TrustPool.empty.offerAll certificates).1 ≠ 0 := by
    have := List.length_pos_of_mem hmem
    unfold TrustPool.size at grown
    omega
  unfold TrustPool.ofPem
  rw [offerPem_of_read _ read, ok_bind]
  exact if_neg filled

/-! ### Artifacts -/

/-- The trust pool of a domain whose certificate is read back holds this certificate. -/
lemma pool_of_pemReadsBack {P : Provider Cert Key Envelope} {domain : KeyPair Cert Key}
    (written : PemReadsBack P domain.certificate) :
    (domain.certificatePem P >>= fun pem => TrustPool.ofPem P (Bytes.ofText pem)) =
      .ok (TrustPool.empty.add domain.certificate) := by
  obtain ⟨pem, printed, reread⟩ := written
  rw [certificatePem_eq_ok.mpr printed, ok_bind, ofPem_of_read reread (List.cons_ne_nil _ _)]
  rfl

lemma compose_eq (P : Provider Cert Key Envelope) (server domain vendorCa : KeyPair Cert Key)
    (vouchers : VoucherStore) : Artifacts.compose P server domain vendorCa vouchers =
      TlsIdentity.ofKeyPair P server >>= fun tlsIdentity =>
        (domain.certificatePem P >>= fun pem => TrustPool.ofPem P (Bytes.ofText pem)) >>= fun trustPool =>
          .ok { server, domain, vendorCa, vouchers, tlsIdentity, trustPool } := by
  unfold Artifacts.compose
  congr 1
  funext tlsIdentity
  rw [bind_assoc]
  rfl

/-- What is printed is read back, so assembly waits for nothing but TLS. -/
lemma assemble_value {P : Provider Cert Key Envelope} {domain : KeyPair Cert Key}
    (written : PemReadsBack P domain.certificate)
    (server vendorCa : KeyPair Cert Key) (vouchers : VoucherStore) :
    (Artifacts.assemble P server domain vendorCa vouchers).value =
      (TlsIdentity.ofKeyPair P server).map fun tlsIdentity =>
        { server, domain, vendorCa, vouchers, tlsIdentity,
          trustPool := TrustPool.empty.add domain.certificate } := by
  unfold Artifacts.assemble
  rw [compose_eq, pool_of_pemReadsBack written]
  cases TlsIdentity.ofKeyPair P server with
  | error e => rfl
  | ok tls => rfl

end BootstrapVoucher.Proofs
