import BootstrapVoucher.Claims.PinnedCertificate
import BootstrapVoucher.Proofs.Assembly
import BootstrapVoucher.Proofs.SignedVoucher

/-!
# The device pins what the server trusts

The certificate of a domain goes two ways. Into a voucher it goes as the body of its PEM text, which
a device decodes after it has verified the voucher; into the trust pool of a server it goes as the
certificates that are read from the same text. Both ways end in the same certificate, so a device
that follows its voucher trusts what the server trusts. Only a voucher that is valid for less than a
second can fail to arrive: it may be refused if it is created in a leap second within a minute.
-/

namespace BootstrapVoucher.Proofs

open X509 Time

variable {Cert Key Envelope : Type}

lemma pinnedCertificate_of_strip {P : Provider Cert Key Envelope} {c : Cert}
    (written : IsReadBack P c) {claims : Claims}
    (stripped : Armor.strip (Pem.write "CERTIFICATE" (P.der c)) = .ok claims.pinnedDomainCert) :
    claims.pinnedCertificate P = .ok c := by
  have decoded := decodeBody_of_strip_write stripped
  unfold Claims.pinnedCertificate
  rw [decoded]
  simp only [Except.mapError, ok_bind, written.parsed]

lemma ordered_of_signAt {P : Provider Cert Key Envelope} {s : Signer Cert Key}
    {serialNumber pem : String} {now createdOn expiresOn : Instant} {voucher : Bytes}
    (added : createdOn.add? s.validity = some expiresOn)
    (signed : (s.signAt P now serialNumber pem createdOn).value = .ok voucher) :
    createdOn ≤ expiresOn := by
  obtain ⟨claims, made, sealed⟩ := signAt_eq_ok signed
  obtain ⟨windowEnd, body, ended, -, rfl⟩ := claims_eq_ok made
  obtain ⟨-, ordered, -⟩ := validate_eq_ok.mp (envelopeOf_eq_ok sealed).1
  rwa [Option.some.inj (added.symm.trans ended)]

/-- Whoever verifies a voucher that was signed for a certificate finds this certificate in it, unless the
window of the voucher runs backwards as its document shows it. -/
lemma pinned_of_signAt {P : Provider Cert Key Envelope} {s : Signer Cert Key} {pool : TrustPool Cert}
    {c : Cert} (faithful : IsFaithful P s.vendor) (hpool : pool.certificates = [s.vendor.certificate])
    (written : IsReadBack P c) {serialNumber : String} {now createdOn expiresOn : Instant}
    {voucher : Bytes} (added : createdOn.add? s.validity = some expiresOn)
    (created : HasFourDigitYear createdOn) (expires : HasFourDigitYear expiresOn)
    (signed : (s.signAt P now serialNumber (Pem.write "CERTIFICATE" (P.der c)) createdOn).value =
      .ok voucher) :
    (createdOn.shown ≤ expiresOn.shown →
      ∃ claims, (verify P pool voucher).value = .ok claims ∧ claims.pinnedCertificate P = .ok c) ∧
    (expiresOn.shown < createdOn.shown →
      ∃ detail, (verify P pool voucher).value = .error (.schemaInvalid detail)) := by
  obtain ⟨claims, made, sealed⟩ := signAt_eq_ok signed
  obtain ⟨windowEnd, body, ended, stripped, rfl⟩ := claims_eq_ok made
  have same : expiresOn = windowEnd := Option.some.inj (added.symm.trans ended)
  subst same
  have answers := answersFor_envelopeOf faithful hpool sealed
  refine ⟨fun ordered => ?_, fun reversed => answers.refused fun fit => ?_⟩
  · exact ⟨_, answers.shown ⟨created, expires⟩ ordered, pinnedCertificate_of_strip written stripped⟩
  · exact instant_not_lt.mpr fit.2 reversed

/-- A server of the domain hands out the voucher, and trusts the certificate of the domain. -/
lemma handed_out {P : Provider Cert Key Envelope} [DecidableEq Cert]
    (server domain vendor : KeyPair Cert Key) {tls : TlsIdentity Cert Key}
    (written : IsReadBack P domain.certificate) (accepted : TlsIdentity.ofKeyPair P server = .ok tls)
    (store : VoucherStore) (id : String) (voucher : Bytes) :
    ∃ artifacts, (Artifacts.assemble P server domain vendor (store.insert id voucher)).value =
        .ok artifacts ∧
      artifacts.voucher? id = some voucher ∧
      artifacts.trustPool.contains domain.certificate = true := by
  have assembled := assemble_value written.pemReadsBack server vendor (store.insert id voucher)
  rw [accepted] at assembled
  exact ⟨_, assembled, find?_insert store id voucher, decide_eq_true (mem_add.mpr (.inr rfl))⟩

/-- Certificates of the common standards are read back from what is printed. Wherever this holds for
the certificate of a domain, and the vendor's signatures can be relied on, a voucher that the vendor
has signed for the domain is handed out by a server of the domain, which trusts this certificate. Unless
the window of the voucher runs backwards as the document shows it, the voucher is verified against the
vendor's certificate and pins the same certificate; else it is refused for its content. The window never
runs backwards for a voucher that is created outside of a leap second within a minute or is valid for a
second or more. -/
theorem pinned_certificate_is_trusted {Cert Key Envelope : Type} [DecidableEq Cert]
    (P : Provider Cert Key Envelope) (s : Signer Cert Key) :
    (∀ c : Certificate, Certificate.ofBytes c.der = .ok c → IsReadBack standardProvider c) ∧
    ∀ (server domain : KeyPair Cert Key) (tls : TlsIdentity Cert Key),
      IsFaithful P s.vendor → IsReadBack P domain.certificate →
      TlsIdentity.ofKeyPair P server = .ok tls →
      ∃ pem, domain.certificatePem P = .ok pem ∧
        ∀ (store : VoucherStore) (id serialNumber : String) (now createdOn expiresOn : Instant)
          (voucher : Bytes),
          createdOn.add? s.validity = some expiresOn →
          HasFourDigitYear createdOn → HasFourDigitYear expiresOn →
          (s.signAt P now serialNumber pem createdOn).value = .ok voucher →
          (∃ artifacts stored,
            (Artifacts.assemble P server domain s.vendor (store.insert id voucher)).value =
              .ok artifacts ∧
            artifacts.voucher? id = some stored ∧
            (createdOn.shown ≤ expiresOn.shown → ∃ claims certificate,
              (verify P (TrustPool.empty.add s.vendor.certificate) stored).value = .ok claims ∧
              claims.pinnedCertificate P = .ok certificate ∧
              artifacts.trustPool.contains certificate = true) ∧
            (expiresOn.shown < createdOn.shown → ∃ detail,
              (verify P (TrustPool.empty.add s.vendor.certificate) stored).value =
                .error (.schemaInvalid detail))) ∧
          (createdOn.IsShown ∨ second ≤ s.validity.nanos → createdOn.shown ≤ expiresOn.shown) := by
  refine ⟨fun c => isReadBack_standardProvider, ?_⟩
  intro server domain tls faithful written accepted
  refine ⟨_, certificatePem_eq_ok.mpr written.printed, ?_⟩
  intro store id serialNumber now createdOn expiresOn voucher added created expires signed
  have hpool : (TrustPool.empty.add s.vendor.certificate).certificates = [s.vendor.certificate] := rfl
  obtain ⟨artifacts, assembled, stored, trusted⟩ :=
    handed_out server domain s.vendor written accepted store id voucher
  obtain ⟨pinned, refused⟩ := pinned_of_signAt faithful hpool written added created expires signed
  refine ⟨⟨artifacts, voucher, assembled, stored, fun ordered => ?_, refused⟩, fun safe => ?_⟩
  · obtain ⟨claims, verified, pins⟩ := pinned ordered
    exact ⟨claims, domain.certificate, verified, pins, trusted⟩
  · by_cases shown : createdOn.IsShown
    · exact Instant.shown_le_shown (ordered_of_signAt added signed) shown
    · exact Instant.shown_le_shown_of_add shown added (safe.resolve_left shown)

/-- Certificates of the common standards and a single vendor, whose seal is a byte in front. -/
def sealingProvider (vendor : Certificate) : Provider Certificate Unit Bytes :=
  { standardProvider with
    readKey := fun _ => .ok ()
    keyKind := fun _ => .rsa
    owns := fun _ _ => true
    checkTls := fun _ _ => .ok ()
    sign := fun _ _ _ content => .ok (0 :: content)
    openEnvelope := fun voucher => .ok voucher.tail?
    certificates := fun _ => [vendor]
    locateSigners := fun _ certificates => .ok certificates
    checkChain := fun anchors _ signer =>
      if signer ∈ anchors then .accepted else .rejected "unable to get local issuer certificate"
    authenticate := fun content _ => .ok content }

lemma isFaithful_sealingProvider (vendor : Certificate) :
    IsFaithful (sealingProvider vendor) ⟨vendor, ()⟩ := by
  constructor
  intro now content voucher signed
  cases signed
  exact ⟨content, ⟨List.cons_ne_nil 0 content, rfl⟩, rfl, if_pos List.mem_cons_self, rfl⟩

/-- The DER text of a certificate with empty names. -/
def smallDer : Bytes :=
  [48, 85, 48, 68, 2, 1, 1, 48, 10, 6, 8, 42, 134, 72, 206, 61, 4, 3, 2, 48, 0, 48, 30, 23, 13, 49, 54,
    48, 49, 48, 49, 48, 48, 48, 48, 48, 48, 90, 23, 13, 49, 55, 48, 49, 48, 49, 48, 48, 48, 48, 48, 48,
    90, 48, 0, 48, 15, 48, 9, 6, 7, 42, 134, 72, 206, 61, 2, 1, 3, 2, 0, 4, 48, 10, 6, 8, 42, 134, 72,
    206, 61, 4, 3, 2, 3, 1, 0]

/-- Its PEM text without the frame, which has two lines. -/
def smallBody : String :=
  "MFUwRAIBATAKBggqhkjOPQQDAjAAMB4XDTE2MDEwMTAwMDAwMFoXDTE3MDEwMTAw\n" ++
    "MDAwMFowADAPMAkGByqGSM49AgEDAgAEMAoGCCqGSM49BAMCAwEA"

/-- Claims about the device 7 that pin the certificate. -/
def smallClaims (createdOn expiresOn : Instant) : Claims :=
  ⟨createdOn, expiresOn, "7", none, smallBody, false⟩

lemma validate_smallClaims {createdOn expiresOn : Instant} (ordered : createdOn ≤ expiresOn) :
    (smallClaims createdOn expiresOn).validate = .ok () := by
  have present : "7" ≠ "" := by decide
  have decoded : Armor.decodeBody smallBody = .ok smallDer := by decide +kernel
  exact validate_eq_ok.mpr ⟨present, ordered, smallDer, decoded⟩

lemma certificate_of_der {b : Bytes} (h : (Certificate.ofBytes b).toOption.map (·.der) = some b) :
    ∃ c, c.der = b ∧ Certificate.ofBytes c.der = .ok c := by
  obtain ⟨c, hc, rfl⟩ := Option.map_eq_some_iff.mp h
  refine ⟨c, rfl, ?_⟩
  cases hread : Certificate.ofBytes c.der with
  | error failure =>
    rw [hread] at hc
    cases hc
  | ok read =>
    rw [hread] at hc
    cases hc
    rfl

/-- A vendor of the certificate, whose vouchers are valid for the given time. -/
def smallSigner (c : Certificate) (validity : Span) : Signer Certificate Unit :=
  (Signer.ofVendor ⟨c, ()⟩).withValidity validity

lemma signAt_smallSigner (c : Certificate) (now : Instant) {createdOn expiresOn : Instant}
    {validity : Span} (added : createdOn.add? validity = some expiresOn)
    (ordered : createdOn ≤ expiresOn) :
    ((smallSigner c validity).signAt (sealingProvider c) now "7" (Pem.write "CERTIFICATE" smallDer)
      createdOn).value = .ok (0 :: (Document.value (smallClaims createdOn expiresOn)).compact) := by
  have valid := validate_smallClaims ordered
  have stripped : Armor.strip (Pem.write "CERTIFICATE" smallDer) = .ok smallBody := by decide +kernel
  have ended : Claims.windowEnd createdOn validity = .ok expiresOn := by
    unfold Claims.windowEnd
    rw [added]
  have made : (smallSigner c validity).claims "7" (Pem.write "CERTIFICATE" smallDer) createdOn =
      .ok (smallClaims createdOn expiresOn) :=
    bind_eq_ok.mpr ⟨smallClaims createdOn expiresOn, bind_eq_ok.mpr ⟨expiresOn, ended,
      bind_eq_ok.mpr ⟨_, mapError_eq_ok.mpr stripped, bind_eq_ok.mpr ⟨(), valid, rfl⟩⟩⟩, rfl⟩
  rw [signAt_value _ _ now made]
  unfold Signer.envelopeOf
  rw [encode_eq_ok.mpr ⟨valid, rfl⟩]
  rfl

/-- A certificate of two lines, pinned from a leap second on and handed out by a server that shows the
same certificate. -/
theorem pinned_certificate_is_trusted_twoLines :
    ∃ c : Certificate, c.der = smallDer ∧ IsReadBack standardProvider c ∧
      ∃ pem voucher artifacts stored claims certificate,
        (⟨c, ()⟩ : KeyPair Certificate Unit).certificatePem (sealingProvider c) = .ok pem ∧
        ((smallSigner c (Span.ofDays 365)).signAt (sealingProvider c) leapSecond2016 "7" pem
          leapSecond2016).value = .ok voucher ∧
        (Artifacts.assemble (sealingProvider c) ⟨c, ()⟩ ⟨c, ()⟩ ⟨c, ()⟩
          (VoucherStore.empty.insert "7" voucher)).value = .ok artifacts ∧
        artifacts.voucher? "7" = some stored ∧
        (verify (sealingProvider c) (TrustPool.empty.add c) stored).value = .ok claims ∧
        claims.pinnedCertificate (sealingProvider c) = .ok certificate ∧
        artifacts.trustPool.contains certificate = true := by
  obtain ⟨c, hder, parsed⟩ := certificate_of_der (b := smallDer) (by decide +kernel)
  obtain ⟨readBackAll, trustedAll⟩ := pinned_certificate_is_trusted (sealingProvider c)
    (smallSigner c (Span.ofDays 365))
  have readBack := readBackAll c parsed
  obtain ⟨pem, printed, trusted⟩ := trustedAll ⟨c, ()⟩ ⟨c, ()⟩ ⟨c, ()⟩ (isFaithful_sealingProvider c)
    ⟨readBack.printed, readBack.reread, readBack.parsed⟩ rfl
  have written : pem = Pem.write "CERTIFICATE" smallDer := by
    rw [certificatePem_eq_ok.mpr readBack.printed] at printed
    exact hder ▸ (Except.ok.inj printed).symm
  have added : leapSecond2016.add? (Span.ofDays 365) = some december2017 := rfl
  have signed := signAt_smallSigner c leapSecond2016 added (by decide)
  rw [← written] at signed
  obtain ⟨⟨artifacts, stored, assembled, found, verified, -⟩, ordered⟩ := trusted VoucherStore.empty "7"
    "7" leapSecond2016 leapSecond2016 december2017 _ added (by decide) (by decide) signed
  obtain ⟨claims, certificate, answer, pinned, held⟩ := verified (ordered (.inl (by decide)))
  exact ⟨c, hder, readBack, pem, _, artifacts, stored, claims, certificate, printed, signed, assembled,
    found, answer, pinned, held⟩

/-- A voucher that is created in a leap second within a minute, for less than a second, is signed and
handed out, and then refused. -/
theorem brief_voucher_is_not_verified :
    ∃ c : Certificate, IsFaithful (sealingProvider c) ⟨c, ()⟩ ∧ IsReadBack (sealingProvider c) c ∧
      ∃ validity expiresOn pem voucher artifacts stored,
        halfMinuteLeap.add? validity = some expiresOn ∧
        HasFourDigitYear halfMinuteLeap ∧ HasFourDigitYear expiresOn ∧
        (⟨c, ()⟩ : KeyPair Certificate Unit).certificatePem (sealingProvider c) = .ok pem ∧
        ((smallSigner c validity).signAt (sealingProvider c) halfMinuteLeap "7" pem
          halfMinuteLeap).value = .ok voucher ∧
        (Artifacts.assemble (sealingProvider c) ⟨c, ()⟩ ⟨c, ()⟩ ⟨c, ()⟩
          (VoucherStore.empty.insert "7" voucher)).value = .ok artifacts ∧
        artifacts.voucher? "7" = some stored ∧
        ∀ claims, (verify (sealingProvider c) (TrustPool.empty.add c) stored).value ≠ .ok claims := by
  obtain ⟨c, hder, parsed⟩ := certificate_of_der (b := smallDer) (by decide +kernel)
  have readBack := isReadBack_standardProvider parsed
  have written : IsReadBack (sealingProvider c) c :=
    ⟨readBack.printed, readBack.reread, readBack.parsed⟩
  have added : halfMinuteLeap.add? ⟨600000000⟩ = some backwardClaims.expiresOn := rfl
  have signed := signAt_smallSigner c halfMinuteLeap added (by decide)
  rw [← hder] at signed
  have faithful := isFaithful_sealingProvider c
  have hpool : (TrustPool.empty.add c).certificates = [c] := rfl
  obtain ⟨artifacts, assembled, stored, -⟩ := handed_out ⟨c, ()⟩ ⟨c, ()⟩ ⟨c, ()⟩ written rfl
    VoucherStore.empty "7" _
  obtain ⟨detail, refused⟩ := (pinned_of_signAt (s := smallSigner c ⟨600000000⟩) faithful hpool written
    added (by decide) (by decide) signed).2 (by decide)
  refine ⟨c, faithful, written, _, _, _, _, artifacts, _, added, by decide, by decide,
    certificatePem_eq_ok.mpr readBack.printed, signed, assembled, stored, fun claims verified => ?_⟩
  rw [refused] at verified
  cases verified

end BootstrapVoucher.Proofs
