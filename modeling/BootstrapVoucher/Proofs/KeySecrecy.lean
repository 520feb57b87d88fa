import BootstrapVoucher.Proofs.AssembledIdentities

/-!
# Private keys leave no trace

Two servers are put together from the same certificates and vouchers, but with other private keys. As
long as TLS accepts the server's own keys, nothing tells the two apart: they are shown by the same
texts, the same records are logged, they trust the same certificates and hand out the same vouchers,
and verification says the same of them. Whether the keys of the domain and of the vendor belong to
their certificates makes no difference.
-/

namespace BootstrapVoucher.Proofs

open X509 Time

variable {Cert Key Envelope : Type}

/-- Two key pairs have the same certificate; the private keys may be any. -/
def SameCertificate (a b : KeyPair Cert Key) : Prop := a.certificate = b.certificate

namespace SameCertificate

variable {a b : KeyPair Cert Key} (same : SameCertificate a b) (P : Provider Cert Key Envelope)

include same

lemma fingerprint : a.fingerprint P = b.fingerprint P := congrArg P.fingerprint same

lemma certificatePem : a.certificatePem P = b.certificatePem P := by
  unfold KeyPair.certificatePem
  rw [same]

lemma debugText : a.debugText P = b.debugText P := congrArg (KeyPair.showCertificate P "KeyPair") same

end SameCertificate

/-- What can be seen of a server's artifacts is the same for two servers: the texts by which they and
their parts are shown, the trust pool, the vouchers, and what verification says of these and logs. -/
structure LooksLike (P : Provider Cert Key Envelope) (a b : Artifacts Cert Key) : Prop where
  shown : a.debugText P = b.debugText P
  server_shown : a.server.debugText P = b.server.debugText P
  domain_shown : a.domain.debugText P = b.domain.debugText P
  vendorCa_shown : a.vendorCa.debugText P = b.vendorCa.debugText P
  tlsIdentity_shown : a.tlsIdentity.debugText P = b.tlsIdentity.debugText P
  trusts : a.trustPool = b.trustPool
  handsOut : ∀ id, a.voucher? id = b.voucher? id
  ids : a.voucherIds = b.voucherIds
  verifies : ∀ id voucher, a.voucher? id = some voucher →
    verify P a.trustPool voucher = verify P b.trustPool voucher
  verifiesAt : ∀ id voucher at_, a.voucher? id = some voucher →
    verifyAt P a.trustPool voucher at_ = verifyAt P b.trustPool voucher at_

section Assembly

variable {P : Provider Cert Key Envelope} {server domain vendorCa : KeyPair Cert Key}
  {vouchers : VoucherStore} {tls : TlsIdentity Cert Key}

/-- What is logged of a server that has been put together. -/
def assemblyRecord (P : Provider Cert Key Envelope) (server domain vendorCa : KeyPair Cert Key)
    (vouchers : VoucherStore) : Record :=
  ⟨.debug, "assembled security artifacts: tls=" ++ server.fingerprint P ++ " domain=" ++
    domain.fingerprint P ++ " vendor-ca=" ++ vendorCa.fingerprint P ++ " vouchers=" ++
    toString vouchers.entries.length⟩

/-- Once TLS has accepted the server's keys, the trust pool is all that assembly waits for. -/
lemma assemble_of_accepted [DecidableEq Cert]
    (accepted : TlsIdentity.ofKeyPair P server = .ok tls) :
    Artifacts.assemble P server domain vendorCa vouchers =
      match domain.certificatePem P >>= fun pem => TrustPool.ofPem P (Bytes.ofText pem) with
      | .error e => ⟨.error e, []⟩
      | .ok trustPool => ⟨.ok ⟨server, domain, vendorCa, vouchers, tls, trustPool⟩,
          [assemblyRecord P server domain vendorCa vouchers]⟩ := by
  unfold Artifacts.assemble
  rw [compose_eq, accepted, ok_bind]
  cases domain.certificatePem P >>= fun pem => TrustPool.ofPem P (Bytes.ofText pem) with
  | error e => rfl
  | ok trustPool => rfl

variable {server' domain' vendorCa' : KeyPair Cert Key} {tls' : TlsIdentity Cert Key}
  (sameServer : SameCertificate server server') (sameDomain : SameCertificate domain domain')
  (sameVendor : SameCertificate vendorCa vendorCa')

include sameServer sameDomain sameVendor

lemma assemblyRecord_same : assemblyRecord P server domain vendorCa vouchers =
    assemblyRecord P server' domain' vendorCa' vouchers := by
  unfold assemblyRecord
  rw [sameServer.fingerprint P, sameDomain.fingerprint P, sameVendor.fingerprint P]

lemma looksLike_of_same (accepted : TlsIdentity.ofKeyPair P server = .ok tls)
    (accepted' : TlsIdentity.ofKeyPair P server' = .ok tls') (trustPool : TrustPool Cert) :
    LooksLike P ⟨server, domain, vendorCa, vouchers, tls, trustPool⟩
      ⟨server', domain', vendorCa', vouchers, tls', trustPool⟩ := by
  have shown : tls.debugText P = tls'.debugText P := by
    rw [ofKeyPair_eq_ok accepted, ofKeyPair_eq_ok accepted']
    exact congrArg (KeyPair.showCertificate P "TlsIdentity") sameServer
  constructor
  case shown =>
    unfold Artifacts.debugText
    rw [sameServer.debugText P, sameDomain.debugText P, sameVendor.debugText P, shown]
  case server_shown => exact sameServer.debugText P
  case domain_shown => exact sameDomain.debugText P
  case vendorCa_shown => exact sameVendor.debugText P
  case tlsIdentity_shown => exact shown
  all_goals intros; rfl

end Assembly

/-- Certificates of the common standards are read back from what is printed. For any provider, two
servers with the same certificates and vouchers, of whose own keys TLS accepts both, log the same
records when they are put together; both fail for the same reason, or both succeed and look alike.
They succeed wherever the certificate of the domain is read back. -/
theorem private_keys_leave_no_trace :
    (∀ c : Certificate, Certificate.ofBytes c.der = .ok c →
      PemReadsBack standardProvider c) ∧
    ∀ {Cert Key Envelope : Type} [DecidableEq Cert] (P : Provider Cert Key Envelope)
      (server server' domain domain' vendorCa vendorCa' : KeyPair Cert Key)
      (vouchers : VoucherStore),
      SameCertificate server server' → SameCertificate domain domain' →
      SameCertificate vendorCa vendorCa' →
      (∃ tls, TlsIdentity.ofKeyPair P server = .ok tls) →
      (∃ tls, TlsIdentity.ofKeyPair P server' = .ok tls) →
      (Artifacts.assemble P server domain vendorCa vouchers).records =
        (Artifacts.assemble P server' domain' vendorCa' vouchers).records ∧
      (∀ e, (Artifacts.assemble P server domain vendorCa vouchers).value = .error e ↔
        (Artifacts.assemble P server' domain' vendorCa' vouchers).value = .error e) ∧
      (∀ a b, (Artifacts.assemble P server domain vendorCa vouchers).value = .ok a →
        (Artifacts.assemble P server' domain' vendorCa' vouchers).value = .ok b →
        LooksLike P a b) ∧
      (PemReadsBack P domain.certificate →
        ∃ a b, (Artifacts.assemble P server domain vendorCa vouchers).value = .ok a ∧
          (Artifacts.assemble P server' domain' vendorCa' vouchers).value = .ok b) := by
  refine ⟨fun c parsed => (isReadBack_standardProvider parsed).pemReadsBack, ?_⟩
  intro Cert Key Envelope _ P server server' domain domain' vendorCa vendorCa' vouchers sameServer
    sameDomain sameVendor ⟨tls, accepted⟩ ⟨tls', accepted'⟩
  have record : assemblyRecord P server domain vendorCa vouchers =
      assemblyRecord P server' domain' vendorCa' vouchers :=
    assemblyRecord_same sameServer sameDomain sameVendor
  rw [assemble_of_accepted accepted, assemble_of_accepted accepted', ← sameDomain.certificatePem P,
    ← record]
  cases pool : domain.certificatePem P >>= fun pem => TrustPool.ofPem P (Bytes.ofText pem) with
  | error e =>
    refine ⟨rfl, fun _ => Iff.rfl, ?_, fun written => ?_⟩
    · rintro a b ⟨⟩
    · cases pool.symm.trans (pool_of_pemReadsBack written)
  | ok trustPool =>
    refine ⟨rfl, fun e => ?_, ?_, fun _ => ⟨_, _, rfl, rfl⟩⟩
    · constructor <;> rintro ⟨⟩
    · rintro a b ⟨⟩ ⟨⟩
      exact looksLike_of_same sameServer sameDomain sameVendor accepted accepted' trustPool

/-- Certificates and keys are numbers. A certificate is printed as one character, and a key belongs to
it in two forms. -/
def printingProvider : Provider UInt8 UInt8 (List UInt8 × Bytes) :=
  { plainProvider with
    pem := fun n => .ok (Bytes.ofText (String.singleton (Char.ofNat n.toNat)))
    readCertificates := fun b => .ok b
    owns := fun certificate key => key % 128 == certificate
    checkTls := fun certificate key =>
      if key % 128 == certificate then .ok () else .error "key values mismatch" }

/-- The server's key is in either of its forms, and in one case the keys of the domain and the vendor
do not belong to their certificates. -/
theorem private_keys_leave_no_trace_mismatched :
    SameCertificate (⟨1, 1⟩ : KeyPair UInt8 UInt8) ⟨1, 129⟩ ∧
    printingProvider.owns 2 2 = true ∧ printingProvider.owns 2 77 = false ∧
    (Artifacts.assemble printingProvider ⟨1, 1⟩ ⟨2, 2⟩ ⟨3, 3⟩ (storeOf [("8", [2, 0, 7])])).records =
      (Artifacts.assemble printingProvider ⟨1, 129⟩ ⟨2, 77⟩ ⟨3, 0⟩
        (storeOf [("8", [2, 0, 7])])).records ∧
    ∃ a b,
      (Artifacts.assemble printingProvider ⟨1, 1⟩ ⟨2, 2⟩ ⟨3, 3⟩ (storeOf [("8", [2, 0, 7])])).value =
        .ok a ∧
      (Artifacts.assemble printingProvider ⟨1, 129⟩ ⟨2, 77⟩ ⟨3, 0⟩
        (storeOf [("8", [2, 0, 7])])).value = .ok b ∧
      a.debugText printingProvider = b.debugText printingProvider ∧
      verify printingProvider a.trustPool [2, 0, 7] = verify printingProvider b.trustPool [2, 0, 7] := by
  obtain ⟨records, -, alike, succeed⟩ := private_keys_leave_no_trace.2 printingProvider ⟨1, 1⟩ ⟨1, 129⟩
    ⟨2, 2⟩ ⟨2, 77⟩ ⟨3, 3⟩ ⟨3, 0⟩ (storeOf [("8", [2, 0, 7])]) rfl rfl rfl ⟨⟨1, 1⟩, rfl⟩
    ⟨⟨1, 129⟩, rfl⟩
  obtain ⟨a, b, first, second⟩ := succeed ⟨String.singleton (Char.ofNat 2), rfl, by decide +kernel⟩
  have same := alike a b first second
  have stored : a.voucher? "8" = some [2, 0, 7] := by
    cases first
    rfl
  exact ⟨rfl, rfl, rfl, records, a, b, first, second, same.shown, same.verifies "8" _ stored⟩

end BootstrapVoucher.Proofs
