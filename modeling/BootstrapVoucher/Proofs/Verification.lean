import BootstrapVoucher.Proofs.Outcome
import BootstrapVoucher.Verification

/-!
# What a verified voucher has passed

Verification is a chain of stages: the envelope is opened, its signers are located and vouched for
by the pool, their signatures are checked, and only then is the content read. The answer is decided
by the first stage that fails, whatever the provider answers. Before the last stage nothing depends
on what the content says.
-/

namespace BootstrapVoucher.Proofs

open Verification

variable {Cert Key Envelope : Type}

/-- The voucher is an envelope of signed data. -/
structure Opens (P : Provider Cert Key Envelope) (voucher : Bytes) (envelope : Envelope) : Prop where
  nonempty : voucher ≠ []
  opened : P.openEnvelope voucher = .ok (some envelope)

/-- The signers of the envelope, of whom there is one at least, all have chains to the pool, and
what their signatures cover is the content. -/
structure Vouches (P : Provider Cert Key Envelope) (pool : TrustPool Cert) (envelope : Envelope)
    (signers : List Cert) (content : Bytes) : Prop where
  located : P.locateSigners envelope (P.certificates envelope) = .ok signers
  signed : signers ≠ []
  chained : ∀ signer ∈ signers,
    P.checkChain pool.certificates (P.certificates envelope) signer = .accepted
  authentic : P.authenticate envelope (P.certificates envelope) = .ok content

/-- Some content of the voucher is authenticated by the pool. -/
def Authenticated (P : Provider Cert Key Envelope) (pool : TrustPool Cert) (voucher content : Bytes) :
    Prop :=
  ∃ envelope signers, Opens P voucher envelope ∧ Vouches P pool envelope signers content

/-- The same cryptography, but envelopes hold other contents. -/
def withContent (P : Provider Cert Key Envelope) (content : Envelope → Bytes) :
    Provider Cert Key Envelope :=
  { P with
    authenticate := fun envelope certificates =>
      (P.authenticate envelope certificates).map fun _ => content envelope }

/-! ### The stages one by one -/

section Stages

variable (P : Provider Cert Key Envelope) (pool : TrustPool Cert)

lemma openVoucher_ok_iff (voucher : Bytes) (envelope : Envelope) :
    openVoucher P voucher = .ok envelope ↔ Opens P voucher envelope := by
  unfold openVoucher
  constructor
  · intro h
    split at h
    · cases h
    · rename_i hne
      split at h
      · cases h
      · cases h
      · rename_i opened
        cases h
        exact ⟨by simpa using hne, opened⟩
  · rintro ⟨hne, opened⟩
    rw [if_neg (by simpa using hne), opened]

lemma openVoucher_malformed {voucher : Bytes} (hne : voucher ≠ [])
    (h : ¬∃ envelope, Opens P voucher envelope) :
    ∃ detail, openVoucher P voucher = .error (.malformed detail) := by
  unfold openVoucher
  rw [if_neg (by simpa using hne)]
  cases opened : P.openEnvelope voucher with
  | error e => exact ⟨e, rfl⟩
  | ok envelope? =>
    cases envelope? with
    | none => exact ⟨_, rfl⟩
    | some envelope => exact absurd ⟨envelope, hne, opened⟩ h

lemma locateSigners_ok_iff (envelope : Envelope) (signers : List Cert) :
    Verification.locateSigners P envelope = .ok signers ↔
      P.locateSigners envelope (P.certificates envelope) = .ok signers ∧ signers ≠ [] := by
  unfold Verification.locateSigners
  cases located : P.locateSigners envelope (P.certificates envelope) with
  | error e => simp
  | ok found =>
    cases found with
    | nil =>
      constructor
      · intro h
        cases h
      · rintro ⟨h, hne⟩
        cases h
        exact absurd rfl hne
    | cons signer others =>
      constructor
      · intro h
        cases h
        exact ⟨rfl, by simp⟩
      · rintro ⟨h, -⟩
        cases h
        rfl

lemma locateSigners_error {envelope : Envelope} {e : VerificationError}
    (h : Verification.locateSigners P envelope = .error e) :
    ∃ detail, e = .signatureInvalid detail := by
  unfold Verification.locateSigners at h
  split at h
  · cases h
    exact ⟨_, rfl⟩
  · cases h
    exact ⟨_, rfl⟩
  · cases h

lemma checkSigner_ok_iff (envelope : Envelope) (signer : Cert) :
    checkSigner P pool envelope signer = .ok () ↔
      P.checkChain pool.certificates (P.certificates envelope) signer = .accepted := by
  unfold checkSigner
  cases P.checkChain pool.certificates (P.certificates envelope) signer with
  | accepted => simp
  | rejected reason => simp
  | failed reason => simp

lemma checkSigner_error {envelope : Envelope} {signer : Cert} {e : VerificationError}
    (h : checkSigner P pool envelope signer = .error e) : ∃ detail, e = .signatureInvalid detail := by
  unfold checkSigner at h
  split at h
  · cases h
  · cases h
    exact ⟨_, rfl⟩
  · cases h
    exact ⟨_, rfl⟩

/-- The loop over the signers leaves none out: one signer without a chain is enough to fail. -/
lemma checkSigners_ok_iff (envelope : Envelope) (signers : List Cert) :
    checkSigners P pool envelope signers = .ok () ↔ ∀ signer ∈ signers,
      P.checkChain pool.certificates (P.certificates envelope) signer = .accepted := by
  induction signers with
  | nil => simp [checkSigners]
  | cons signer signers ih =>
    rw [checkSigners, bind_eq_ok, List.forall_mem_cons, ← ih, ← checkSigner_ok_iff P pool]
    constructor
    · rintro ⟨⟨⟩, head, tail⟩
      exact ⟨head, tail⟩
    · rintro ⟨head, tail⟩
      exact ⟨(), head, tail⟩

lemma checkSigners_error {envelope : Envelope} {signers : List Cert} {e : VerificationError}
    (h : checkSigners P pool envelope signers = .error e) :
    ∃ detail, e = .signatureInvalid detail := by
  induction signers with
  | nil => cases h
  | cons signer signers ih =>
    rw [checkSigners, bind_eq_error] at h
    rcases h with h | ⟨-, -, h⟩
    · exact checkSigner_error P pool h
    · exact ih h

lemma authenticate_error {envelope : Envelope} {e : VerificationError}
    (h : Verification.authenticate P envelope = .error e) :
    ∃ detail, e = .signatureInvalid detail := by
  obtain ⟨reason, -, rfl⟩ := mapError_eq_error.mp h
  exact ⟨reason, rfl⟩

/-! ### The chain of stages -/

/-- All stages before the content is read: the signers and what they have signed. -/
def inspect (voucher : Bytes) : Except VerificationError (List Cert × Bytes) := do
  let envelope ← openVoucher P voucher
  let signers ← Verification.locateSigners P envelope
  checkSigners P pool envelope signers
  let content ← Verification.authenticate P envelope
  return (signers, content)

lemma examine_eq_inspect (voucher : Bytes) :
    examine P pool voucher = inspect P pool voucher >>= fun inspected =>
      decodeContent inspected.2 >>= fun claims => .ok (claims, inspected.1) := by
  unfold examine inspect
  cases openVoucher P voucher with
  | error e => rfl
  | ok envelope =>
    simp only [ok_bind]
    cases Verification.locateSigners P envelope with
    | error e => rfl
    | ok signers =>
      simp only [ok_bind]
      cases checkSigners P pool envelope signers with
      | error e => rfl
      | ok _ =>
        cases Verification.authenticate P envelope with
        | error e => rfl
        | ok content => rfl

lemma inspect_of_opens {voucher : Bytes} {envelope : Envelope} (h : Opens P voucher envelope) :
    inspect P pool voucher = Verification.locateSigners P envelope >>= fun signers =>
      checkSigners P pool envelope signers >>= fun _ =>
        Verification.authenticate P envelope >>= fun content => .ok (signers, content) := by
  unfold inspect
  rw [(openVoucher_ok_iff P voucher envelope).mpr h]
  rfl

lemma inspect_ok_iff {voucher : Bytes} {envelope : Envelope} (h : Opens P voucher envelope)
    (signers : List Cert) (content : Bytes) :
    inspect P pool voucher = .ok (signers, content) ↔ Vouches P pool envelope signers content := by
  rw [inspect_of_opens P pool h]
  simp only [bind_eq_ok, locateSigners_ok_iff, Except.ok.injEq, Prod.mk.injEq]
  constructor
  · rintro ⟨found, ⟨located, signed⟩, ⟨⟩, chained, read, authentic, rfl, rfl⟩
    exact ⟨located, signed, (checkSigners_ok_iff P pool envelope found).mp chained,
      mapError_eq_ok.mp authentic⟩
  · rintro ⟨located, signed, chained, authentic⟩
    exact ⟨signers, ⟨located, signed⟩, (), (checkSigners_ok_iff P pool envelope signers).mpr chained,
      content, mapError_eq_ok.mpr authentic, rfl, rfl⟩

/-- Once the envelope is open, every failure before the content is one of signature. -/
lemma inspect_error {voucher : Bytes} {envelope : Envelope} (h : Opens P voucher envelope)
    {e : VerificationError} (failed : inspect P pool voucher = .error e) :
    ∃ detail, e = .signatureInvalid detail := by
  rw [inspect_of_opens P pool h] at failed
  simp only [bind_eq_error, reduceCtorEq, and_false, exists_false, or_false] at failed
  rcases failed with failed | ⟨signers, -, failed | ⟨-, -, failed⟩⟩
  · exact locateSigners_error P failed
  · exact checkSigners_error P pool failed
  · exact authenticate_error P failed

/-- What becomes of a voucher is decided by the first stage that fails. -/
lemma inspect_cases (voucher : Bytes) :
    (voucher = [] ∧ inspect P pool voucher = .error .empty) ∨
    (voucher ≠ [] ∧ (¬∃ envelope, Opens P voucher envelope) ∧
      ∃ detail, inspect P pool voucher = .error (.malformed detail)) ∨
    (∃ envelope, Opens P voucher envelope ∧ (¬∃ signers content, Vouches P pool envelope signers content) ∧
      ∃ detail, inspect P pool voucher = .error (.signatureInvalid detail)) ∨
    ∃ envelope signers content, Opens P voucher envelope ∧
      Vouches P pool envelope signers content ∧ inspect P pool voucher = .ok (signers, content) := by
  by_cases hne : voucher = []
  · subst hne
    exact .inl ⟨rfl, rfl⟩
  by_cases opens : ∃ envelope, Opens P voucher envelope
  · obtain ⟨envelope, opens⟩ := opens
    cases inspected : inspect P pool voucher with
    | error e =>
      obtain ⟨detail, rfl⟩ := inspect_error P pool opens inspected
      refine .inr (.inr (.inl ⟨envelope, opens, ?_, detail, rfl⟩))
      rintro ⟨signers, content, vouches⟩
      have h := (inspect_ok_iff P pool opens signers content).mpr vouches
      rw [inspected] at h
      cases h
    | ok finding =>
      obtain ⟨signers, content⟩ := finding
      exact .inr (.inr (.inr ⟨envelope, signers, content, opens,
        (inspect_ok_iff P pool opens signers content).mp inspected, rfl⟩))
  · obtain ⟨detail, malformed⟩ := openVoucher_malformed P hne opens
    refine .inr (.inl ⟨hne, opens, detail, ?_⟩)
    unfold inspect
    rw [malformed]
    rfl

lemma authenticated_iff_inspect (voucher content : Bytes) :
    Authenticated P pool voucher content ↔ ∃ signers, inspect P pool voucher = .ok (signers, content) := by
  constructor
  · rintro ⟨envelope, signers, opens, vouches⟩
    exact ⟨signers, (inspect_ok_iff P pool opens signers content).mpr vouches⟩
  · rintro ⟨signers, inspected⟩
    rcases inspect_cases P pool voucher with ⟨-, h⟩ | ⟨-, -, detail, h⟩ | ⟨-, -, -, detail, h⟩ | h
    · rw [inspected] at h
      cases h
    · rw [inspected] at h
      cases h
    · rw [inspected] at h
      cases h
    · obtain ⟨envelope, found, read, opens, vouches, h⟩ := h
      rw [inspected] at h
      cases h
      exact ⟨envelope, signers, opens, vouches⟩

lemma inspect_empty_iff (voucher : Bytes) :
    inspect P pool voucher = .error .empty ↔ voucher = [] := by
  constructor
  · intro failed
    rcases inspect_cases P pool voucher with ⟨h, -⟩ | ⟨-, -, detail, h⟩ | ⟨-, -, -, detail, h⟩ | h
    · exact h
    · simp [h] at failed
    · simp [h] at failed
    · obtain ⟨_, _, _, _, _, h⟩ := h
      simp [h] at failed
  · rintro rfl
    rfl

lemma inspect_malformed_iff (voucher : Bytes) :
    (∃ detail, inspect P pool voucher = .error (.malformed detail)) ↔
      voucher ≠ [] ∧ ¬∃ envelope, Opens P voucher envelope := by
  constructor
  · rintro ⟨detail, failed⟩
    rcases inspect_cases P pool voucher with ⟨-, h⟩ | ⟨hne, h, -⟩ | ⟨-, -, -, other, h⟩ | h
    · simp [h] at failed
    · exact ⟨hne, h⟩
    · simp [h] at failed
    · obtain ⟨_, _, _, _, _, h⟩ := h
      simp [h] at failed
  · rintro ⟨hne, closed⟩
    obtain ⟨detail, malformed⟩ := openVoucher_malformed P hne closed
    exact ⟨detail, by rw [inspect, malformed, error_bind]⟩

lemma inspect_signatureInvalid_iff (voucher : Bytes) :
    (∃ detail, inspect P pool voucher = .error (.signatureInvalid detail)) ↔
      ∃ envelope, Opens P voucher envelope ∧
        ¬∃ signers content, Vouches P pool envelope signers content := by
  constructor
  · rintro ⟨detail, failed⟩
    rcases inspect_cases P pool voucher with ⟨-, h⟩ | ⟨-, -, other, h⟩ | ⟨envelope, opens, h, -⟩ | h
    · simp [h] at failed
    · simp [h] at failed
    · exact ⟨envelope, opens, h⟩
    · obtain ⟨_, _, _, _, _, h⟩ := h
      simp [h] at failed
  · rintro ⟨envelope, opens, unvouched⟩
    cases inspected : inspect P pool voucher with
    | error e =>
      obtain ⟨detail, rfl⟩ := inspect_error P pool opens inspected
      exact ⟨detail, rfl⟩
    | ok finding =>
      exact absurd ⟨_, _, (inspect_ok_iff P pool opens _ _).mp inspected⟩ unvouched

lemma inspect_ne_schemaInvalid (voucher : Bytes) (detail : String) :
    inspect P pool voucher ≠ .error (.schemaInvalid detail) := by
  intro failed
  rcases inspect_cases P pool voucher with ⟨-, h⟩ | ⟨-, -, other, h⟩ | ⟨-, -, -, other, h⟩ | h
  · simp [h] at failed
  · simp [h] at failed
  · simp [h] at failed
  · obtain ⟨_, _, _, _, _, h⟩ := h
    simp [h] at failed

lemma decodeContent_error {content : Bytes} {e : VerificationError} :
    decodeContent content = .error e ↔
      ∃ fault, Claims.decode content = .error fault ∧ e = .schemaInvalid fault.message := by
  rw [decodeContent, mapError_eq_error]
  simp only [eq_comm]

/-! ### The answer -/

lemma verify_value (voucher : Bytes) :
    (verify P pool voucher).value =
      inspect P pool voucher >>= fun inspected => decodeContent inspected.2 := by
  unfold verify
  rw [examine_eq_inspect]
  cases inspect P pool voucher with
  | error e => rfl
  | ok inspected =>
    simp only [ok_bind]
    cases decodeContent inspected.2 with
    | error e => rfl
    | ok claims => rfl

variable {P pool} in
/-- Once content is authenticated, the answer is what it says. -/
lemma verify_of_authenticated {voucher content : Bytes} (h : Authenticated P pool voucher content) :
    (verify P pool voucher).value = decodeContent content := by
  obtain ⟨signers, inspected⟩ := (authenticated_iff_inspect P pool voucher content).mp h
  rw [verify_value, inspected, ok_bind]

/-- The signers' chains are looked for without regard to the content. -/
lemma checkSigners_withContent (content : Envelope → Bytes) (envelope : Envelope)
    (signers : List Cert) :
    checkSigners (withContent P content) pool envelope signers =
      checkSigners P pool envelope signers := by
  induction signers with
  | nil => rfl
  | cons signer signers ih =>
    rw [checkSigners, checkSigners, ih]
    rfl

/-- A stage that fails before the content is read fails alike whatever the content is. -/
lemma inspect_withContent (content : Envelope → Bytes) {voucher : Bytes} {e : VerificationError}
    (failed : inspect P pool voucher = .error e) :
    inspect (withContent P content) pool voucher = .error e := by
  unfold inspect at failed ⊢
  rw [bind_eq_error] at failed ⊢
  rcases failed with failed | ⟨envelope, opened, failed⟩
  · exact .inl failed
  refine .inr ⟨envelope, opened, ?_⟩
  rw [bind_eq_error] at failed ⊢
  rcases failed with failed | ⟨signers, located, failed⟩
  · exact .inl failed
  refine .inr ⟨signers, located, ?_⟩
  rw [bind_eq_error, checkSigners_withContent] at *
  rcases failed with failed | ⟨_, chained, failed⟩
  · exact .inl failed
  refine .inr ⟨(), chained, ?_⟩
  rw [bind_eq_error] at failed ⊢
  rcases failed with failed | ⟨read, -, ⟨⟩⟩
  refine .inl ?_
  obtain ⟨reason, h, rfl⟩ := mapError_eq_error.mp failed
  exact mapError_eq_error.mpr ⟨reason, by simp [withContent, h, Except.map], rfl⟩

end Stages

/-- Verification answers with claims exactly when the voucher is an envelope, the pool vouches for
all of its signers, their signatures check and the content is a document of these claims. Every
other answer names the first stage that fails, so the content is judged only after it has been
authenticated; where it is not, other contents would have given the same answer and the same log. -/
theorem verify_answers_first_failing_stage (P : Provider Cert Key Envelope) (pool : TrustPool Cert)
    (voucher : Bytes) :
    (∀ claims, (verify P pool voucher).value = .ok claims ↔
      ∃ content, Authenticated P pool voucher content ∧ Claims.decode content = .ok claims) ∧
    ((verify P pool voucher).value = .error .empty ↔ voucher = []) ∧
    ((∃ detail, (verify P pool voucher).value = .error (.malformed detail)) ↔
      voucher ≠ [] ∧ ¬∃ envelope, Opens P voucher envelope) ∧
    ((∃ detail, (verify P pool voucher).value = .error (.signatureInvalid detail)) ↔
      ∃ envelope, Opens P voucher envelope ∧
        ¬∃ signers content, Vouches P pool envelope signers content) ∧
    (∀ detail, (verify P pool voucher).value = .error (.schemaInvalid detail) ↔
      ∃ content fault, Authenticated P pool voucher content ∧
        Claims.decode content = .error fault ∧ detail = fault.message) ∧
    ∀ content, (¬∃ read, Authenticated P pool voucher read) →
      verify (withContent P content) pool voucher = verify P pool voucher := by
  have early : ∀ e, (∀ detail, e ≠ .schemaInvalid detail) →
      ((verify P pool voucher).value = .error e ↔ inspect P pool voucher = .error e) := by
    intro e he
    rw [verify_value, bind_eq_error]
    constructor
    · rintro (failed | ⟨inspected, -, failed⟩)
      · exact failed
      · obtain ⟨fault, -, rfl⟩ := decodeContent_error.mp failed
        exact absurd rfl (he _)
    · exact .inl
  refine ⟨fun claims => ?_, ?_, ?_, ?_, fun detail => ?_, fun content unread => ?_⟩
  · rw [verify_value, bind_eq_ok]
    simp only [authenticated_iff_inspect, Prod.exists, decodeContent, mapError_eq_ok]
    rw [exists_comm]
    simp only [exists_and_right]
  · rw [early _ (by simp), inspect_empty_iff]
  · simp only [early _ (by simp : ∀ detail, VerificationError.malformed _ ≠ .schemaInvalid detail),
      inspect_malformed_iff]
  · simp only [early _
      (by simp : ∀ detail, VerificationError.signatureInvalid _ ≠ .schemaInvalid detail),
      inspect_signatureInvalid_iff]
  · rw [verify_value, bind_eq_error]
    constructor
    · rintro (failed | ⟨⟨signers, content⟩, inspected, failed⟩)
      · exact absurd failed (inspect_ne_schemaInvalid P pool voucher detail)
      · obtain ⟨fault, h, ⟨⟩⟩ := decodeContent_error.mp failed
        exact ⟨content, fault, (authenticated_iff_inspect P pool voucher content).mpr
          ⟨signers, inspected⟩, h, rfl⟩
    · rintro ⟨content, fault, authenticated, h, rfl⟩
      obtain ⟨signers, inspected⟩ := (authenticated_iff_inspect P pool voucher content).mp authenticated
      exact .inr ⟨(signers, content), inspected, decodeContent_error.mpr ⟨fault, h, rfl⟩⟩
  · cases inspected : inspect P pool voucher with
    | error e =>
      rw [verify, verify, examine_eq_inspect, examine_eq_inspect, inspect_withContent P pool content inspected,
        inspected]
      rfl
    | ok finding =>
      exact absurd ⟨finding.2, (authenticated_iff_inspect P pool voucher _).mpr ⟨_, inspected⟩⟩ unread

/-- A provider without cryptography: certificates and keys are numbers, and an envelope is the
numbers of its signers, a zero and the content. The certificates of a pool are the only ones with a
chain to it. -/
def plainProvider : Provider UInt8 UInt8 (List UInt8 × Bytes) where
  readCertificate _ := .error "no certificate"
  readCertificates _ := .ok []
  readKey _ := .error "no key"
  certificateOfDer b := match b with
    | [n] => .ok n
    | _ => .error "no certificate"
  der n := [n]
  pem n := .ok (Bytes.ofText (toString n))
  subject n := toString n
  fingerprint n := toString n
  keyKind _ := .rsa
  owns certificate key := certificate == key
  checkTls _ _ := .ok ()
  sign _ certificate _ content := .ok (certificate :: 0 :: content)
  openEnvelope b :=
    if 0 ∈ b then .ok (some (b.takeWhile (· != 0), (b.dropWhile (· != 0)).tail))
    else .error "no envelope"
  certificates envelope := envelope.1
  locateSigners envelope _ := .ok envelope.1
  checkChain anchors _ signer :=
    if signer ∈ anchors then .accepted else .rejected "unable to get local issuer certificate"
  authenticate envelope _ := .ok envelope.2

/-- A second signer whom the pool does not know spoils the voucher, whatever is in it. -/
theorem verify_refuses_unknown_cosigner :
    (¬∃ read, Authenticated plainProvider (TrustPool.empty.add 1) [1, 2, 0, 123] read) ∧
      verify (withContent plainProvider fun _ => [125]) (TrustPool.empty.add 1) [1, 2, 0, 123] =
        verify plainProvider (TrustPool.empty.add 1) [1, 2, 0, 123] := by
  have unread : ¬∃ read, Authenticated plainProvider (TrustPool.empty.add 1) [1, 2, 0, 123] read := by
    rintro ⟨read, envelope, signers, ⟨-, opened⟩, ⟨located, -, chained, -⟩⟩
    cases opened
    cases located
    have second := chained 2 (by decide)
    revert second
    decide
  exact ⟨unread, (verify_answers_first_failing_stage plainProvider (TrustPool.empty.add 1)
    [1, 2, 0, 123]).2.2.2.2.2 (fun _ => [125]) unread⟩

end BootstrapVoucher.Proofs
