import BootstrapVoucher.Proofs.SignedVoucher
import BootstrapVoucher.Proofs.WrittenEnvelope

/-!
# Changed contents are refused

The content of a voucher stands in it as it is, and the signer states its digest elsewhere. So if
the content is overwritten by other bytes of the same length with another digest, the voucher is an
envelope still, but its signature does not check, whoever is trusted; what the other bytes say is
never looked at.
-/

namespace BootstrapVoucher.Proofs

open Verification

variable {Cert Key Envelope : Type}

/-- What can be seen in an envelope before its signatures are checked. -/
structure View (Envelope : Type) where
  content : Envelope → Option Bytes
  /-- The SHA-256 digests of the content that its signers state. -/
  digests : Envelope → List Bytes

/-- What is relied on when a voucher has been changed. The content of a new voucher stands in it as
it is, apart from the digest that the signer states; and content is authenticated only if it has all
digests that are stated. -/
structure ShowsChanges (P : Provider Cert Key Envelope) (view : View Envelope) (vendor : Cert) :
    Prop where
  placed : ∀ {now key content voucher}, P.sign now vendor key content = .ok voucher →
    voucher.length < 2 ^ 63 →
      ∃ before after, voucher = before ++ content ++ after ∧
        ∀ other : Bytes, other.length = content.length →
          ∃ envelope, Opens P (before ++ other ++ after) envelope ∧
            view.content envelope = some other ∧
            Digest.Sha2.sha256 content ∈ view.digests envelope
  checked : ∀ {envelope certificates content}, P.authenticate envelope certificates = .ok content →
    view.content envelope = some content ∧
      ∀ digest ∈ view.digests envelope, digest = Digest.Sha2.sha256 content

/-! ### The standard provider -/

section Standard

open Asn1 X509 SignedData
open Digest (Algorithm)

/-- The digests that signers with the default hash state. -/
def standardView : View SignedData.Envelope where
  content := SignedData.Envelope.content
  digests envelope :=
    (envelope.signers.filter (·.digestAlgorithm.id == defaultHashId)).filterMap (·.statedDigest?)

/-- An announcement that is named by a hash is one of this hash. -/
lemma hash_of_isNamedBy {algorithm : AlgorithmId} {announcement : Announcement}
    (h : Announcement.ofAlgorithm algorithm = .ok announcement) {id : ObjectId}
    {hash found : Algorithm} (known : hashIds.lookup id = some hash)
    (named : announcement.isNamedBy id = true) (hfound : announcement.hash = some found) :
    found = hash := by
  have direct : (announcement.scheme == some id) = false → found = hash := by
    intro unnamed
    unfold Announcement.isNamedBy at named
    rw [unnamed, hfound, known, Bool.false_or] at named
    exact (Option.some.inj (beq_iff_eq.mp named)).symm
  unfold Announcement.ofAlgorithm at h
  split at h
  · cases h
  split at h
  · cases h
    cases hfound
  split at h
  · cases h
    exact direct rfl
  · rename_i unlisted _
    cases h
    apply direct
    rw [beq_eq_false_iff_ne]
    rintro ⟨⟩
    rw [known] at unlisted
    cases unlisted
  · cases h

lemma hash?_default {info : SignerInfo} (hid : info.digestAlgorithm.id = defaultHashId)
    {algorithms : List AlgorithmId} {announced : List Announcement}
    (hannounced : algorithms.mapM Announcement.ofAlgorithm = .ok announced) {hash : Algorithm}
    (h : info.hash? announced = some hash) : hash = defaultHash := by
  have known : isKnownId defaultHashId = true := by decide
  have listed : hashIds.lookup defaultHashId = some defaultHash := by decide
  unfold SignerInfo.hash? at h
  simp only [hid, known, Bool.not_true, Bool.false_eq_true, false_and, if_false] at h
  obtain ⟨announcement, hfind, hhash⟩ := Option.bind_eq_some_iff.mp h
  obtain ⟨algorithm, hof⟩ := ok_of_mem_mapM hannounced (List.mem_of_find?_eq_some hfind)
  have named := List.find?_some hfind
  exact hash_of_isNamedBy hof listed named hhash

/-- Whoever states a digest and passes the check has stated the digest of the content. -/
lemma statedDigest_of_check {info : SignerInfo} (hid : info.digestAlgorithm.id = defaultHashId)
    {algorithms : List AlgorithmId} {announced : List Announcement}
    (hannounced : algorithms.mapM Announcement.ofAlgorithm = .ok announced) {content digest : Bytes}
    {signer : Certificate} (h : info.check announced content signer = .ok ())
    (stated : info.statedDigest? = some digest) : digest = Digest.Sha2.sha256 content := by
  have some_ : info.attributes.isEmpty = false := by
    unfold SignerInfo.statedDigest? at stated
    obtain ⟨a, hfind, -⟩ := Option.bind_eq_some_iff.mp stated
    have := List.mem_of_find?_eq_some hfind
    rw [List.isEmpty_eq_false_iff]
    exact List.ne_nil_of_mem this
  unfold SignerInfo.check at h
  split at h
  · rename_i hash key hhash hkey
    have := hash?_default hid hannounced hhash
    subst this
    simp only [some_, Bool.false_eq_true, if_false] at h
    split at h
    · cases h
    · rename_i agrees
      rw [stated, not_not] at agrees
      exact Option.some.inj agrees
  · cases h
  · cases h

/-- Every signer who is listed has been located. -/
lemma signer_of_mem {envelope : SignedData.Envelope} {certificates signers : List Certificate}
    (h : envelope.locateSigners certificates = .ok signers) {info : SignerInfo}
    (hinfo : info ∈ envelope.signers) :
    ∃ signer, (info, signer) ∈ envelope.signers.zip signers := by
  unfold SignedData.Envelope.locateSigners at h
  split at h
  · cases h
  have same := (forall₂_of_mapM h).length_eq
  rw [← List.map_fst_zip same.le] at hinfo
  obtain ⟨⟨_, signer⟩, paired, rfl⟩ := List.mem_map.mp hinfo
  exact ⟨signer, paired⟩

lemma authenticate_standard {envelope : SignedData.Envelope} {certificates : List Certificate}
    {content : Bytes} (h : envelope.authenticate certificates = .ok content) :
    envelope.content = some content ∧
      ∀ digest ∈ standardView.digests envelope, digest = Digest.Sha2.sha256 content := by
  unfold SignedData.Envelope.authenticate at h
  split at h
  · rename_i held hheld
    obtain ⟨signers, located, h⟩ := bind_eq_ok.mp h
    obtain ⟨announced, hannounced, h⟩ := bind_eq_ok.mp h
    obtain ⟨_, checked, h⟩ := bind_eq_ok.mp h
    cases h
    refine ⟨hheld, fun digest hdigest => ?_⟩
    obtain ⟨info, hinfo, stated⟩ := List.mem_filterMap.mp hdigest
    obtain ⟨listed, hid⟩ := List.mem_filter.mp hinfo
    obtain ⟨signer, paired⟩ := signer_of_mem located listed
    have named : info.digestAlgorithm.id = defaultHashId := by simpa using hid
    have passed := ok_of_forM checked _ paired
    exact statedDigest_of_check named hannounced passed stated
  · cases h

/-- A certificate that has been read can be relied on with the standard provider. -/
lemma showsChanges_standardProvider {c : Certificate} {b : Bytes}
    (hread : Certificate.ofBytes b = .ok c) : ShowsChanges standardProvider standardView c := by
  obtain ⟨e, hc⟩ := read_of_ofBytes hread
  obtain ⟨name, hissuer⟩ := issuer_read hc
  constructor
  · intro now key content voucher signed short
    obtain ⟨first, digits, stated, digest, order, readable, -, hsign⟩ := sign_eq now c key content
    have sealed := mapError_eq_ok.mp signed
    rw [hsign] at sealed
    obtain ⟨⟨algorithm, signature⟩, hsigned, rfl⟩ := map_eq_ok.mp sealed
    obtain ⟨before, after, split⟩ := hasPlace_envelope c.der
      (writeSigner c (stated.map SingleAttribute.bytes).flatten algorithm signature) content.length
    refine ⟨before, after, split content rfl, fun other hother => ?_⟩
    rw [split content rfl] at short
    rw [← split other hother]
    have shortOther : Short (writeEnvelope c.der
        (writeSigner c (stated.map SingleAttribute.bytes).flatten algorithm signature) other) := by
      apply short_of_length_le _ short
      rw [split other hother]
      simp only [List.length_append, hother, le_refl]
    have opened := ofBytes_writeEnvelope hc
      (denotes_signer hissuer readable (denotes_signDigest hsigned)) shortOther
    refine ⟨_, ⟨List.cons_ne_nil _ _, mapError_eq_ok.mpr opened⟩, rfl, ?_⟩
    have named := beq_self_eq_true defaultHashId
    exact List.mem_filterMap.mpr ⟨_, List.mem_filter.mpr ⟨List.mem_singleton.mpr rfl, named⟩,
      statedDigest?_signerInfo order⟩
  · intro envelope certificates content authentic
    exact authenticate_standard (mapError_eq_ok.mp authentic)

end Standard

/-! ### The changed voucher -/

/-- A voucher with other content that shows the digest of the old one is never authenticated. -/
lemma signatureInvalid_of_shown {P : Provider Cert Key Envelope} {view : View Envelope}
    {vendor : Cert} (shows : ShowsChanges P view vendor) {voucher content other : Bytes}
    {envelope : Envelope} (opens : Opens P voucher envelope)
    (holds : view.content envelope = some other)
    (stated : Digest.Sha2.sha256 content ∈ view.digests envelope)
    (differs : Digest.Sha2.sha256 other ≠ Digest.Sha2.sha256 content) (pool : TrustPool Cert) :
    ∃ detail, (verify P pool voucher).value = .error (.signatureInvalid detail) := by
  have unvouched : ¬∃ signers read, Vouches P pool envelope signers read := by
    rintro ⟨signers, read, vouches⟩
    obtain ⟨held, agree⟩ := shows.checked vouches.authentic
    have same : other = read := Option.some.inj (holds.symm.trans held)
    rw [← same] at agree
    exact differs (agree _ stated).symm
  obtain ⟨detail, failed⟩ :=
    (inspect_signatureInvalid_iff P pool voucher).mpr ⟨envelope, opens, unvouched⟩
  refine ⟨detail, ?_⟩
  rw [verify_value, failed, error_bind]

/-- The content of a signed voucher stands in it at one place, and whatever other bytes of the same
length are put there, the voucher opens with these as its content. If their digest is another one,
verification answers that the signature is invalid, for every trust pool, whether or not the bytes
are a document. All this holds for the standard provider and every certificate that has been read. A
string of bytes in memory is shorter than `2 ^ 63`. -/
theorem changed_content_is_refused :
    (∀ (c : X509.Certificate) (b : Bytes), X509.Certificate.ofBytes b = .ok c →
      ShowsChanges standardProvider standardView c) ∧
    ∀ {Cert Key Envelope : Type} (P : Provider Cert Key Envelope) (view : View Envelope)
      (s : Signer Cert Key), ShowsChanges P view s.vendor.certificate →
      ∀ (now : Time.Instant) (claims : Claims) (voucher : Bytes),
        (s.signClaims P now claims).value = .ok voucher → voucher.length < 2 ^ 63 →
        ∃ content before after, claims.encode = .ok content ∧ voucher = before ++ content ++ after ∧
          ∀ other : Bytes, other.length = content.length →
            (∃ envelope, Opens P (before ++ other ++ after) envelope ∧
              view.content envelope = some other) ∧
            (Digest.Sha2.sha256 other ≠ Digest.Sha2.sha256 content → ∀ pool : TrustPool Cert,
              ∃ detail, (verify P pool (before ++ other ++ after)).value =
                .error (.signatureInvalid detail)) := by
  refine ⟨fun c b hread => showsChanges_standardProvider hread, ?_⟩
  intro Cert Key Envelope P view s shows now claims voucher signed short
  rw [signClaims_value] at signed
  obtain ⟨valid, sealed⟩ := envelopeOf_eq_ok signed
  obtain ⟨before, after, split, changed⟩ := shows.placed sealed short
  refine ⟨_, before, after, encode_eq_ok.mpr ⟨valid, rfl⟩, split, fun other hother => ?_⟩
  obtain ⟨envelope, opens, holds, stated⟩ := changed other hother
  exact ⟨⟨envelope, opens, holds⟩, fun differs pool =>
    signatureInvalid_of_shown shows opens holds stated differs pool⟩

/-! ### A vendor with an RSA key -/

section Vendor

open Asn1 X509 SignedData

/-- The DER text of a certificate with an RSA key of 512 bits. -/
def vendorDer : Bytes :=
  [48, 130, 1, 11, 48, 129, 182, 2, 1, 1, 48, 13, 6, 9, 42, 134, 72, 134, 247, 13, 1, 1, 11, 5, 0,
    48, 17, 49, 15, 48, 13, 6, 3, 85, 4, 3, 12, 6, 86, 101, 110, 100, 111, 114, 48, 30, 23, 13, 49,
    54, 48, 49, 48, 49, 48, 48, 48, 48, 48, 48, 90, 23, 13, 51, 54, 48, 49, 48, 49, 48, 48, 48, 48,
    48, 48, 90, 48, 17, 49, 15, 48, 13, 6, 3, 85, 4, 3, 12, 6, 86, 101, 110, 100, 111, 114, 48, 92,
    48, 13, 6, 9, 42, 134, 72, 134, 247, 13, 1, 1, 1, 5, 0, 3, 75, 0, 48, 72, 2, 65, 0, 200, 63,
    34, 177, 195, 60, 85, 192, 179, 36, 224, 13, 96, 42, 42, 124, 193, 128, 24, 69, 28, 50, 60,
    174, 17, 250, 55, 39, 161, 40, 112, 85, 143, 73, 66, 137, 175, 105, 213, 61, 40, 44, 91, 121,
    176, 142, 213, 35, 184, 96, 210, 238, 234, 112, 56, 199, 200, 43, 92, 62, 152, 47, 134, 97, 2,
    3, 1, 0, 1, 48, 13, 6, 9, 42, 134, 72, 134, 247, 13, 1, 1, 11, 5, 0, 3, 65, 0, 30, 68, 76, 227,
    84, 184, 213, 65, 224, 58, 108, 193, 134, 221, 199, 253, 240, 67, 51, 127, 147, 41, 185, 100,
    134, 98, 130, 121, 132, 183, 135, 59, 175, 53, 216, 179, 170, 113, 82, 61, 22, 173, 177, 63,
    89, 10, 90, 19, 118, 1, 41, 230, 33, 97, 145, 187, 232, 180, 38, 82, 241, 118, 43, 193]

def vendorKey : Rsa.PrivateKey where
  modulus := 0xf774eb5248db40af72158370d269a9a5ae658f33fe3b890b93f448b3a5aa3c81 *
    0xcf28f65e408fc146794ec926bc9e28eabee8062610e8ad0186a74a63a8c7d9e1
  exponent := 65537
  secret := 0xa0c517ccd2abf9493a4b2bdb714ec947da6f468d0e0343769a1662fbdd46c350 * 2 ^ 256 +
    0x71372f0d8894dbfa40d17a2991b37c9cd754be4769fdcfdf2303e303390ff001

/-- An RSA key that is long enough signs every digest. -/
lemma signDigest_rsa {key : Rsa.PrivateKey} (large : 62 ≤ key.size) (b : Bytes) :
    ∃ signature, signature.length = key.size ∧
      signDigest (.rsa key) (defaultHash.digest b) =
        .ok (Write.sequence [Write.objectId rsaId, Write.null], signature) := by
  have named : (Rsa.hashName defaultHash ++ defaultHash.digest b).length + 11 = 62 := by
    rw [List.length_append, show (defaultHash.digest b).length = 32 from length_sha256 b]
    rfl
  have fits : (Rsa.hashName defaultHash ++ defaultHash.digest b).length + 11 ≤ key.size :=
    named.trans_le large
  simp only [signDigest, Rsa.sign?, Rsa.paddedBlock?, if_pos fits]
  exact ⟨_, length_ofNat _ _, rfl⟩

lemma length_element_le (first : UInt8) (content : Bytes) :
    (Write.element first content).length ≤ 2 * content.length + 2 := by
  have width : Bytes.width content.length ≤ content.length :=
    width_le (Nat.lt_pow_self (by decide))
  rw [Write.element, List.length_append, List.length_cons, Write.length]
  split
  · simp only [List.length_singleton]
    omega
  · simp only [List.length_cons, length_ofNat]
    omega

lemma length_sequence_le (parts : List Bytes) :
    (Write.sequence parts).length ≤ 2 * (parts.map List.length).sum + 2 := by
  rw [← List.length_flatten]
  exact length_element_le _ _

lemma length_wrapped_le (part : Bytes) : (Write.wrapped 0 [part]).length ≤ 2 * part.length + 2 := by
  rw [Write.wrapped, List.flatten_singleton]
  exact length_element_le _ _

lemma length_set_le (part : Bytes) : (Write.set [part]).length ≤ 2 * part.length + 2 := by
  rw [set_singleton, List.flatten_singleton]
  exact length_element_le _ _

lemma length_writeSigner_le (c : Certificate) (attributes algorithm signature : Bytes) :
    (writeSigner c attributes algorithm signature).length ≤
      100 + 4 * (c.issuer.write.length + (Write.integer c.serial).length + attributes.length +
        algorithm.length + signature.length) := by
  have one : (Write.integer 1).length = 3 := by decide +kernel
  have hash : writtenHash.length = 15 := by decide +kernel
  have id := length_sequence_le [c.issuer.write, Write.integer c.serial]
  have stated := length_element_le 0xa0 attributes
  have signed : (Write.octets signature).length ≤ _ := length_element_le 4 signature
  have whole := length_sequence_le [
    Write.integer 1, Write.sequence [c.issuer.write, Write.integer c.serial], writtenHash,
    Write.element 0xa0 attributes, algorithm, Write.octets signature]
  simp only [List.map_cons, List.map_nil, List.sum_cons, List.sum_nil] at id whole
  unfold writeSigner
  omega

lemma length_writeEnvelope_le (der signer content : Bytes) :
    (writeEnvelope der signer content).length ≤
      1000 + 100 * (der.length + signer.length + content.length) := by
  have one : (Write.integer 1).length = 3 := by decide +kernel
  have hash : writtenHash.length = 15 := by decide +kernel
  have ids : (Write.objectId signedId).length = 11 ∧ (Write.objectId dataId).length = 11 := by
    decide +kernel
  have hashes := length_set_le writtenHash
  have octets : (Write.octets content).length ≤ _ := length_element_le 4 content
  have wrapped := length_wrapped_le (Write.octets content)
  have data := length_sequence_le [Write.objectId dataId, Write.wrapped 0 [Write.octets content]]
  have certificates := length_wrapped_le der
  have signers := length_set_le signer
  have signed := length_sequence_le [
    Write.integer 1, Write.set [writtenHash],
    Write.sequence [Write.objectId dataId, Write.wrapped 0 [Write.octets content]],
    Write.wrapped 0 [der], Write.set [signer]]
  have outer := length_wrapped_le (writeSignedData der signer content)
  have whole := length_sequence_le [Write.objectId signedId,
    Write.wrapped 0 [writeSignedData der signer content]]
  simp only [List.map_cons, List.map_nil, List.sum_cons, List.sum_nil] at data signed whole
  unfold writeEnvelope
  unfold writeSignedData at *
  omega

/-- Whoever owns a certificate with an RSA key that is long enough can sign all valid claims. -/
lemma signClaims_rsa {c : Certificate} {key : Rsa.PrivateKey}
    (owned : c.isOwnedBy (.rsa key) = true) (large : 62 ≤ key.size) {claims : Claims}
    (valid : claims.validate = .ok ()) (now : Time.Instant) :
    ∃ voucher,
      ((Signer.ofVendor ⟨c, .rsa key⟩).signClaims standardProvider now claims).value = .ok voucher ∧
      voucher.length ≤ 100000 + 400 * (c.der.length + c.issuer.write.length +
        (Write.integer c.serial).length + key.size + (Document.value claims).compact.length) := by
  let content := (Document.value claims).compact
  obtain ⟨first, digits, stated, digest, -, -, small, hsign⟩ := sign_eq now c (.rsa key) content
  obtain ⟨signature, hsize, hsigned⟩ := signDigest_rsa large digest
  simp only [hsigned, Except.map] at hsign
  let signer := writeSigner c (stated.map SingleAttribute.bytes).flatten
    (Write.sequence [Write.objectId rsaId, Write.null]) signature
  have sealed : Signer.envelopeOf standardProvider ⟨c, .rsa key⟩ now claims =
      .ok (writeEnvelope c.der signer content) := by
    have matching : KeyPair.isMatching standardProvider ⟨c, .rsa key⟩ = true := owned
    have kind : standardProvider.keyKind (.rsa key) = .rsa := rfl
    have checked : Signer.checkKey standardProvider ⟨c, .rsa key⟩ = .ok () := by
      simp only [Signer.checkKey, matching, kind, Bool.not_true, Bool.false_eq_true, if_false]
    have standard : ∀ now c key content, standardProvider.sign now c key content =
        describe (SignedData.sign now c key content) := fun _ _ _ _ => rfl
    rw [Signer.envelopeOf, checked, ok_bind, encode_eq_ok.mpr ⟨valid, rfl⟩, Except.mapError,
      ok_bind, standard, hsign, describe, Except.mapError, Except.mapError]
  refine ⟨_, (signClaims_value _ _ _ _).trans sealed, ?_⟩
  have signerLength : signer.length ≤ _ := length_writeSigner_le c
    (stated.map SingleAttribute.bytes).flatten (Write.sequence [Write.objectId rsaId, Write.null])
      signature
  have envelopeLength := length_writeEnvelope_le c.der signer content
  have contentLength : content.length = (Document.value claims).compact.length := rfl
  have algorithm : (Write.sequence [Write.objectId rsaId, Write.null]).length = 15 := by
    decide +kernel
  omega

/-- The vendor's certificate is read, and with it the vendor signs a voucher for the device 7. -/
lemma exists_voucher_device7 : ∃ (c : Certificate) (voucher : Bytes),
    Certificate.ofBytes vendorDer = .ok c ∧
      ((Signer.ofVendor ⟨c, .rsa vendorKey⟩).signClaims standardProvider leapSecond2016
        (plainClaims leapSecond2016 december2017)).value = .ok voucher ∧
      voucher.length < 2 ^ 63 := by
  have facts : (Certificate.ofBytes vendorDer).toOption.map (fun c => (c.der.length,
      c.issuer.write.length, (Write.integer c.serial).length, c.isOwnedBy (.rsa vendorKey))) =
        some (271, 19, 3, true) := by
    decide +kernel
  have large : 62 ≤ vendorKey.size ∧ vendorKey.size ≤ 64 := by decide +kernel
  have valid : (plainClaims leapSecond2016 december2017).validate = .ok () := rfl
  have size : (Document.value (plainClaims leapSecond2016 december2017)).compact.length = 212 := by
    decide +kernel
  cases hread : Certificate.ofBytes vendorDer with
  | error failure =>
    rw [hread] at facts
    cases facts
  | ok c =>
    rw [hread] at facts
    have known := Option.some.inj facts
    simp only [Prod.mk.injEq] at known
    obtain ⟨hder, hissuer, hserial, owned⟩ := known
    obtain ⟨voucher, signed, bound⟩ := signClaims_rsa owned large.1 valid leapSecond2016
    exact ⟨c, voucher, rfl, signed, by omega⟩

/-- What the vendor states about the device 8. -/
def otherClaims : Claims := { plainClaims leapSecond2016 december2017 with serialNumber := "8" }

/-- A voucher for the device 7 is made out to the device 8, and the vendor is trusted. -/
theorem changed_content_is_refused_device8 :
    ∃ c : Certificate, Certificate.ofBytes vendorDer = .ok c ∧
      ShowsChanges standardProvider standardView c ∧
      ∃ voucher content before after,
        ((Signer.ofVendor ⟨c, .rsa vendorKey⟩).signClaims standardProvider leapSecond2016
          (plainClaims leapSecond2016 december2017)).value = .ok voucher ∧
        voucher.length < 2 ^ 63 ∧ voucher = before ++ content ++ after ∧
        (Document.value otherClaims).compact.length = content.length ∧
        Digest.Sha2.sha256 (Document.value otherClaims).compact ≠ Digest.Sha2.sha256 content ∧
        ∃ detail, (verify standardProvider (TrustPool.empty.add c)
          (before ++ (Document.value otherClaims).compact ++ after)).value =
            .error (.signatureInvalid detail) := by
  have size : (Document.value (plainClaims leapSecond2016 december2017)).compact.length = 212 := by
    decide +kernel
  have same : (Document.value otherClaims).compact.length = 212 := by decide +kernel
  have differs : Digest.Sha2.sha256 (Document.value otherClaims).compact ≠
      Digest.Sha2.sha256 (Document.value (plainClaims leapSecond2016 december2017)).compact := by
    decide +kernel
  obtain ⟨c, voucher, hread, signed, short⟩ := exists_voucher_device7
  have shows := changed_content_is_refused.1 c vendorDer hread
  obtain ⟨content, before, after, encoded, split, changed⟩ := changed_content_is_refused.2
    standardProvider standardView (Signer.ofVendor ⟨c, .rsa vendorKey⟩) shows leapSecond2016 _
    voucher signed short
  obtain ⟨-, rfl⟩ := encode_eq_ok.mp encoded
  exact ⟨c, hread, shows, voucher, _, before, after, signed, short, split, same.trans size.symm,
    differs, (changed _ (same.trans size.symm)).2 differs _⟩

end Vendor

end BootstrapVoucher.Proofs
