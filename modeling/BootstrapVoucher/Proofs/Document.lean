import BootstrapVoucher.Claims.Document
import BootstrapVoucher.Proofs.DateAndTime
import BootstrapVoucher.Proofs.JsonText

/-!
# Voucher documents read back

Claims survive being written and read exactly when both times fall into the years 0 to 9999 and neither
is a leap second within a minute, which is read as the next second; the window of validity may then run
backwards. Reading moves times to UTC, which can take them one year out of these years, so a document
that is read need not be readable in its canonical form. That the times of a document come from texts
is an invariant of the loop over its members.
-/

namespace BootstrapVoucher.Claims

/-- The claims that the document of these claims shows. -/
def shown (c : Claims) : Claims :=
  { c with createdOn := c.createdOn.shown, expiresOn := c.expiresOn.shown }

/-- Neither time is a leap second within a minute. -/
def HasShownTimes (c : Claims) : Prop := c.createdOn.IsShown ∧ c.expiresOn.IsShown

instance (c : Claims) : Decidable c.HasShownTimes :=
  inferInstanceAs (Decidable (_ ∧ _))

lemma shown_eq_self_iff {c : Claims} : c.shown = c ↔ c.HasShownTimes := by
  unfold HasShownTimes
  rw [← Time.Instant.shown_eq_self_iff, ← Time.Instant.shown_eq_self_iff]
  constructor
  · intro same
    exact ⟨congrArg Claims.createdOn same, congrArg Claims.expiresOn same⟩
  · rintro ⟨created, expires⟩
    unfold shown
    rw [created, expires]

end BootstrapVoucher.Claims

namespace BootstrapVoucher.Proofs

open Time Json Document

/-! ### Valid claims -/

lemma instant_not_lt {a b : Instant} : ¬a < b ↔ b ≤ a := by
  change ¬(a.seconds < b.seconds ∨ a.seconds = b.seconds ∧ a.nanos < b.nanos) ↔
    b.seconds < a.seconds ∨ b.seconds = a.seconds ∧ b.nanos ≤ a.nanos
  omega

lemma validate_eq_ok {c : Claims} : c.validate = .ok () ↔ c.Valid := by
  unfold Claims.validate
  constructor
  · intro h
    split at h
    · cases h
    · rename_i present
      split at h
      · cases h
      · rename_i ordered
        split at h
        · cases h
        · rename_i der decoded
          exact ⟨present, instant_not_lt.mp ordered, der, decoded⟩
  · rintro ⟨present, ordered, der, decoded⟩
    rw [if_neg present, if_neg (instant_not_lt.mpr ordered), decoded]

/-- Of the conditions of validity only the window depends on what the times show. -/
lemma validate_shown {c : Claims} (valid : c.validate = .ok ()) :
    (c.createdOn.shown ≤ c.expiresOn.shown → c.shown.validate = .ok ()) ∧
      (c.expiresOn.shown < c.createdOn.shown →
        ∃ detail, c.shown.validate = .error (.semanticError detail)) := by
  obtain ⟨present, -, der, decoded⟩ := validate_eq_ok.mp valid
  refine ⟨fun ordered => validate_eq_ok.mpr ⟨present, ordered, der, decoded⟩, fun reversed => ?_⟩
  exact ⟨_, (if_neg present).trans (if_pos reversed)⟩

/-! ### Reading by members -/

/-- The text is a document with this object of claims, in which no required member is missing. -/
structure Holds (s : Bytes) (inner : Value) : Prop where
  contained : ∃ document, Value.parse s = .ok document ∧ document.member? container = some inner
  isObject : inner.isObject = true
  complete : requiredNames.find? (fun name => (inner.member? name).isNone) = none

lemma decode_of_holds {s : Bytes} {inner : Value} (h : Holds s inner) :
    Claims.decode s = (readMembers (claimMembers inner)).mapError .syntaxError >>= fun c =>
      c.validate >>= fun _ => .ok c := by
  obtain ⟨document, parsed, found⟩ := h.contained
  unfold Claims.decode
  rw [parsed]
  simp only [Except.mapError, ok_bind, found, h.isObject, h.complete]
  rfl

/-- Claims are read from the members of a complete document, and they are valid. -/
lemma decode_eq_ok {s : Bytes} {c : Claims} :
    Claims.decode s = .ok c ↔
      ∃ inner, Holds s inner ∧ readMembers (claimMembers inner) = .ok c ∧ c.validate = .ok () := by
  constructor
  · intro h
    obtain ⟨inner, holds⟩ : ∃ inner, Holds s inner := by
      unfold Claims.decode at h
      obtain ⟨document, parsed, h⟩ := bind_eq_ok.mp h
      cases found : document.member? container with
      | none =>
        rw [found] at h
        cases h
      | some inner =>
        cases object : inner.isObject with
        | false =>
          simp only [found, object] at h
          cases h
        | true =>
          cases missing : requiredNames.find? fun name => (inner.member? name).isNone with
          | some name =>
            simp only [found, object, missing] at h
            cases h
          | none => exact ⟨inner, ⟨document, mapError_eq_ok.mp parsed, found⟩, object, missing⟩
    rw [decode_of_holds holds] at h
    obtain ⟨read, hread, h⟩ := bind_eq_ok.mp h
    obtain ⟨⟨⟩, valid, h⟩ := bind_eq_ok.mp h
    cases h
    exact ⟨inner, holds, mapError_eq_ok.mp hread, valid⟩
  · rintro ⟨inner, holds, read, valid⟩
    rw [decode_of_holds holds, read, Except.mapError, ok_bind, valid, ok_bind]

/-! ### Written documents -/

lemma parse_compact (c : Claims) : Value.parse (value c).compact = .ok (value c) :=
  parse_write none (value c) rfl (show 2 < 128 by decide)

lemma holds_compact (c : Claims) : Holds (value c).compact (claimsValue c) :=
  ⟨⟨value c, parse_compact c, rfl⟩, rfl, rfl⟩

lemma claimMembers_claimsValue (c : Claims) : claimMembers (claimsValue c) = [
    ("assertion", .string ((c.assertion.map Assertion.text).getD "")),
    ("created-on", .string (DateAndTime.format c.createdOn)),
    ("domain-cert-revocation-checks", .bool c.revocationChecks),
    ("expires-on", .string (DateAndTime.format c.expiresOn)),
    ("pinned-domain-cert", .string c.pinnedDomainCert),
    ("serial-number", .string c.serialNumber)] := rfl

lemma put_createdOn (d : Draft) (v : Value) : d.put ("created-on", v) =
    Draft.once "created-on" d.createdOn (readInstant v) >>= fun t => .ok { d with createdOn := t } :=
  rfl

lemma put_expiresOn (d : Draft) (v : Value) : d.put ("expires-on", v) =
    Draft.once "expires-on" d.expiresOn (readInstant v) >>= fun t => .ok { d with expiresOn := t } :=
  rfl

lemma put_serialNumber (d : Draft) (v : Value) : d.put ("serial-number", v) =
    Draft.once "serial-number" d.serialNumber (readText v) >>= fun s =>
      .ok { d with serialNumber := s } :=
  rfl

lemma put_assertion (d : Draft) (v : Value) : d.put ("assertion", v) =
    Draft.once "assertion" d.assertion (readAssertion v) >>= fun a => .ok { d with assertion := a } :=
  rfl

lemma put_pinnedDomainCert (d : Draft) (v : Value) : d.put ("pinned-domain-cert", v) =
    Draft.once "pinned-domain-cert" d.pinnedDomainCert (readText v) >>= fun s =>
      .ok { d with pinnedDomainCert := s } :=
  rfl

lemma put_revocationChecks (d : Draft) (v : Value) : d.put ("domain-cert-revocation-checks", v) =
    Draft.once "domain-cert-revocation-checks" d.revocationChecks (readBool v) >>= fun b =>
      .ok { d with revocationChecks := b } :=
  rfl

lemma once_none {α : Type} (name : String) (read : Except String α) :
    Draft.once name none read = read.map some := rfl

/-- An absent assertion is written as the empty text, which is no name of an assertion. -/
lemma readAssertion_text (a : Option Assertion) :
    readAssertion (.string ((a.map Assertion.text).getD "")) = .ok a := by
  rcases a with _ | _ | _ | _ <;> rfl

/-- Of the members that are written, only the times can fail to be read. -/
lemma readMembers_claimMembers (c : Claims) :
    readMembers (claimMembers (claimsValue c)) =
      readInstant (.string (DateAndTime.format c.createdOn)) >>= fun createdOn =>
        readInstant (.string (DateAndTime.format c.expiresOn)) >>= fun expiresOn =>
          .ok { c with createdOn := createdOn, expiresOn := expiresOn } := by
  rw [claimMembers_claimsValue, readMembers]
  simp only [List.foldlM_cons, List.foldlM_nil, put_assertion, put_createdOn, put_revocationChecks,
    put_expiresOn, put_pinnedDomainCert, put_serialNumber, Draft.empty, once_none, readAssertion_text]
  cases readInstant (.string (DateAndTime.format c.createdOn)) with
  | error e => rfl
  | ok createdOn =>
    cases readInstant (.string (DateAndTime.format c.expiresOn)) with
    | error e => rfl
    | ok expiresOn => rfl

lemma readInstant_format {t : Instant} (h : HasFourDigitYear t) :
    readInstant (.string (DateAndTime.format t)) = .ok t.shown := by
  unfold readInstant
  simp only [readText, ok_bind, parse_format h]

lemma readInstant_format_signed {t : Instant} (h : ¬HasFourDigitYear t) :
    ∃ detail, readInstant (.string (DateAndTime.format t)) = .error detail := by
  unfold readInstant
  simp only [readText, ok_bind, parse_format_signed h]
  exact ⟨_, rfl⟩

/-- Both times are in the years 0 to 9999. -/
def HasReadableYears (c : Claims) : Prop :=
  HasFourDigitYear c.createdOn ∧ HasFourDigitYear c.expiresOn

instance (c : Claims) : Decidable (HasReadableYears c) :=
  inferInstanceAs (Decidable (_ ∧ _))

lemma readMembers_readable {c : Claims} (h : HasReadableYears c) :
    readMembers (claimMembers (claimsValue c)) = .ok c.shown := by
  rw [readMembers_claimMembers, readInstant_format h.1, ok_bind, readInstant_format h.2, ok_bind]
  rfl

lemma readMembers_unreadable {c : Claims} (h : ¬HasReadableYears c) :
    ∃ detail, readMembers (claimMembers (claimsValue c)) = .error detail := by
  rw [readMembers_claimMembers]
  by_cases created : HasFourDigitYear c.createdOn
  · obtain ⟨detail, failed⟩ := readInstant_format_signed fun expires => h ⟨created, expires⟩
    exact ⟨detail, by rw [readInstant_format created, ok_bind, failed, error_bind]⟩
  · obtain ⟨detail, failed⟩ := readInstant_format_signed created
    exact ⟨detail, by rw [failed, error_bind]⟩

lemma encode_eq_ok {c : Claims} {b : Bytes} :
    c.encode = .ok b ↔ c.validate = .ok () ∧ b = (value c).compact := by
  unfold Claims.encode
  rw [bind_eq_ok]
  constructor
  · rintro ⟨⟨⟩, valid, ⟨⟩⟩
    exact ⟨valid, rfl⟩
  · rintro ⟨valid, rfl⟩
    exact ⟨(), valid, rfl⟩

lemma decode_compact {c : Claims} (h : HasReadableYears c) :
    Claims.decode (value c).compact = c.shown.validate >>= fun _ => .ok c.shown := by
  rw [decode_of_holds (holds_compact c), readMembers_readable h, Except.mapError, ok_bind]

lemma decode_compact_ordered {c : Claims} (valid : c.validate = .ok ()) (h : HasReadableYears c)
    (ordered : c.createdOn.shown ≤ c.expiresOn.shown) :
    Claims.decode (value c).compact = .ok c.shown := by
  rw [decode_compact h, (validate_shown valid).1 ordered, ok_bind]

lemma decode_compact_reversed {c : Claims} (valid : c.validate = .ok ()) (h : HasReadableYears c)
    (reversed : c.expiresOn.shown < c.createdOn.shown) :
    ∃ detail, Claims.decode (value c).compact = .error (.semanticError detail) := by
  obtain ⟨detail, refused⟩ := (validate_shown valid).2 reversed
  exact ⟨detail, by rw [decode_compact h, refused, error_bind]⟩

lemma decode_compact_shown {c : Claims} (valid : c.validate = .ok ()) (h : HasReadableYears c)
    (shown : c.HasShownTimes) : Claims.decode (value c).compact = .ok c := by
  rw [decode_compact h, Claims.shown_eq_self_iff.mpr shown, valid, ok_bind]

lemma decode_compact_signed {c : Claims} (h : ¬HasReadableYears c) :
    ∃ detail, Claims.decode (value c).compact = .error (.syntaxError detail) := by
  obtain ⟨detail, failed⟩ := readMembers_unreadable h
  exact ⟨detail, by rw [decode_of_holds (holds_compact c), failed, Except.mapError, error_bind]⟩

/-- The claims come back just if the text shows their times and these are in the years 0 to 9999. -/
lemma decode_compact_eq_self_iff {c : Claims} (valid : c.validate = .ok ()) :
    Claims.decode (value c).compact = .ok c ↔ HasReadableYears c ∧ c.HasShownTimes := by
  refine ⟨fun same => ?_, fun ⟨readable, shown⟩ => decode_compact_shown valid readable shown⟩
  by_cases readable : HasReadableYears c
  · rw [decode_compact readable] at same
    obtain ⟨-, -, same⟩ := bind_eq_ok.mp same
    exact ⟨readable, Claims.shown_eq_self_iff.mp (Except.ok.inj same)⟩
  · obtain ⟨detail, unread⟩ := decode_compact_signed readable
    rw [unread] at same
    cases same

/-- What is written is read back with all its claims just if both times are in the years 0 to 9999 and
neither is a leap second within a minute. In these years the text shows the second after such a leap
second, and the claims that it shows are read, unless their window runs backwards; a time outside of
these years is a syntax error. -/
theorem decode_encode {c : Claims} {b : Bytes} (h : c.encode = .ok b) :
    (Claims.decode b = .ok c ↔ HasReadableYears c ∧ c.HasShownTimes) ∧
    (HasReadableYears c →
      (c.createdOn.shown ≤ c.expiresOn.shown → Claims.decode b = .ok c.shown) ∧
      (c.expiresOn.shown < c.createdOn.shown →
        ∃ detail, Claims.decode b = .error (.semanticError detail))) ∧
    (¬HasReadableYears c → ∃ detail, Claims.decode b = .error (.syntaxError detail)) := by
  obtain ⟨valid, rfl⟩ := encode_eq_ok.mp h
  exact ⟨decode_compact_eq_self_iff valid, fun readable =>
    ⟨decode_compact_ordered valid readable, decode_compact_reversed valid readable⟩,
    decode_compact_signed⟩

def instantOf (seconds : Int) (nanos : Nat) (h : (Instant.of? seconds nanos).isSome = true := by decide) :
    Instant :=
  (Instant.of? seconds nanos).get h

/-- Claims whose document needs escapes, the second 60 and all digits of a fraction. -/
def leapSecondClaims : Claims where
  createdOn := instantOf 1483228799 1123456789
  expiresOn := instantOf 253402300799 999999999
  serialNumber := "Ger\u00e4t \"7\"\\\t\u0001"
  assertion := some .proximity
  pinnedDomainCert := "TUlJ\nQg=="
  revocationChecks := true

def endlessClaims : Claims :=
  { leapSecondClaims with
    expiresOn := instantOf 8210266876799 0 }

/-- Half a second into the leap second that doubles the second 12:00:30 of the last day of 2016. -/
def halfMinuteLeap : Instant := instantOf 1483185630 1500000000

/-- Claims whose times are the same half of a second, told apart by the leap second. -/
def halfMinuteClaims : Claims :=
  { leapSecondClaims with createdOn := halfMinuteLeap, expiresOn := instantOf 1483185631 500000000 }

/-- The same, but less of the next second has passed at the end. -/
def backwardClaims : Claims :=
  { halfMinuteClaims with expiresOn := instantOf 1483185631 100000000 }

/-- The first document is read as it was written and the second one with its start moved; the others
are not read. -/
theorem decode_encode_leapSecond :
    (leapSecondClaims.encode = .ok (value leapSecondClaims).compact ∧
      Claims.decode (value leapSecondClaims).compact = .ok leapSecondClaims) ∧
    (halfMinuteClaims.encode = .ok (value halfMinuteClaims).compact ∧
      Claims.decode (value halfMinuteClaims).compact =
        .ok { halfMinuteClaims with createdOn := halfMinuteClaims.expiresOn }) ∧
    (backwardClaims.encode = .ok (value backwardClaims).compact ∧
      ∃ detail, Claims.decode (value backwardClaims).compact = .error (.semanticError detail)) ∧
    endlessClaims.encode = .ok (value endlessClaims).compact ∧
      ∃ detail, Claims.decode (value endlessClaims).compact = .error (.syntaxError detail) := by
  have written : leapSecondClaims.encode = .ok (value leapSecondClaims).compact :=
    encode_eq_ok.mpr ⟨rfl, rfl⟩
  have moved : halfMinuteClaims.encode = .ok (value halfMinuteClaims).compact :=
    encode_eq_ok.mpr ⟨rfl, rfl⟩
  have backward : backwardClaims.encode = .ok (value backwardClaims).compact :=
    encode_eq_ok.mpr ⟨rfl, rfl⟩
  have endless : endlessClaims.encode = .ok (value endlessClaims).compact :=
    encode_eq_ok.mpr ⟨rfl, rfl⟩
  exact ⟨⟨written, (decode_encode written).1.mpr (by decide)⟩,
    ⟨moved, ((decode_encode moved).2.1 (by decide)).1 (by decide)⟩,
    ⟨backward, ((decode_encode backward).2.1 (by decide)).2 (by decide)⟩,
    endless, (decode_encode endless).2.2 (by decide)⟩

/-- A leap second within a minute does not survive, though its year has four digits. -/
theorem halfMinuteLeap_is_not_read_back :
    halfMinuteClaims.encode = .ok (value halfMinuteClaims).compact ∧ HasReadableYears halfMinuteClaims ∧
      Claims.decode (value halfMinuteClaims).compact ≠ .ok halfMinuteClaims := by
  refine ⟨encode_eq_ok.mpr ⟨rfl, rfl⟩, by decide, fun same => ?_⟩
  have shown := (decode_compact_eq_self_iff rfl).mp same
  revert shown
  decide

/-! ### Documents that are read -/

def IsRead (t : Instant) : Prop := ∃ s, DateAndTime.parse s = .ok t

/-- The times of a draft, as far as it has any, come from texts. -/
structure IsDated (d : Draft) : Prop where
  createdOn : ∀ t, d.createdOn = some t → IsRead t
  expiresOn : ∀ t, d.expiresOn = some t → IsRead t

lemma once_eq_ok {α : Type} {name : String} {place filled : Option α} {read : Except String α}
    (h : Draft.once name place read = .ok filled) : ∃ a, read = .ok a ∧ filled = some a := by
  unfold Draft.once at h
  split at h
  · cases h
  · cases read with
    | error e => cases h
    | ok a =>
      cases h
      exact ⟨a, rfl, rfl⟩

lemma required_eq_ok {α : Type} {name : String} {place : Option α} {a : α}
    (h : Draft.required name place = .ok a) : place = some a := by
  cases place with
  | none => cases h
  | some a =>
    cases h
    rfl

lemma isRead_of_readInstant {v : Value} {t : Instant} (h : readInstant v = .ok t) : IsRead t := by
  unfold readInstant at h
  obtain ⟨s, -, h⟩ := bind_eq_ok.mp h
  split at h
  · rename_i read
    cases h
    exact ⟨s, read⟩
  · cases h

/-- A member that is put into a draft brings no time that is not the time of a text. -/
lemma put_isDated (d : Draft) (member : String × Value) (next : Draft) (hd : IsDated d)
    (h : d.put member = .ok next) : IsDated next := by
  obtain ⟨name, v⟩ := member
  unfold Draft.put at h
  simp only at h
  split at h
  · obtain ⟨place, hplace, h⟩ := bind_eq_ok.mp h
    obtain ⟨t, ht, rfl⟩ := once_eq_ok hplace
    cases h
    refine ⟨fun _ h => ?_, hd.expiresOn⟩
    cases h
    exact isRead_of_readInstant ht
  split at h
  · obtain ⟨place, hplace, h⟩ := bind_eq_ok.mp h
    obtain ⟨t, ht, rfl⟩ := once_eq_ok hplace
    cases h
    refine ⟨hd.createdOn, fun _ h => ?_⟩
    cases h
    exact isRead_of_readInstant ht
  -- no other member touches a time
  iterate 4
    split at h
    · obtain ⟨place, -, h⟩ := bind_eq_ok.mp h
      cases h
      exact ⟨hd.createdOn, hd.expiresOn⟩
  cases h
  exact hd

lemma isRead_of_readMembers {members : List (String × Value)} {c : Claims}
    (h : readMembers members = .ok c) : IsRead c.createdOn ∧ IsRead c.expiresOn := by
  obtain ⟨d, hd, h⟩ := bind_eq_ok.mp h
  have start : IsDated Draft.empty := ⟨by simp [Draft.empty], by simp [Draft.empty]⟩
  have dated := foldlM_invariant IsDated put_isDated start hd
  unfold Draft.finish at h
  simp only [bind_eq_ok] at h
  obtain ⟨createdOn, hcreated, expiresOn, hexpires, _, -, _, -, h⟩ := h
  cases h
  exact ⟨dated.createdOn _ (required_eq_ok hcreated), dated.expiresOn _ (required_eq_ok hexpires)⟩

lemma hasShownTimes_of_decode {s : Bytes} {c : Claims} (h : Claims.decode s = .ok c) :
    c.HasShownTimes := by
  obtain ⟨inner, -, read, -⟩ := decode_eq_ok.mp h
  obtain ⟨⟨createdText, created⟩, expiresText, expires⟩ := isRead_of_readMembers read
  exact ⟨isShown_of_parse created, isShown_of_parse expires⟩

/-- A document that is read can be written again, and what is written gives the same claims unless
an offset has taken a time out of the years 0 to 9999, which is by one year at most. -/
theorem encode_decode {s : Bytes} {c : Claims} (h : Claims.decode s = .ok c) :
    ∃ b, c.encode = .ok b ∧ (HasReadableYears c → Claims.decode b = .ok c) ∧
      (¬HasReadableYears c → ∃ detail, Claims.decode b = .error (.syntaxError detail)) ∧
      (-1 ≤ c.createdOn.date.year ∧ c.createdOn.date.year ≤ 10000) ∧
      -1 ≤ c.expiresOn.date.year ∧ c.expiresOn.date.year ≤ 10000 := by
  obtain ⟨inner, -, read, valid⟩ := decode_eq_ok.mp h
  obtain ⟨⟨createdText, created⟩, expiresText, expires⟩ := isRead_of_readMembers read
  exact ⟨(value c).compact, encode_eq_ok.mpr ⟨valid, rfl⟩,
    fun readable => decode_compact_shown valid readable (hasShownTimes_of_decode h),
    decode_compact_signed, parse_year created, parse_year expires⟩

/-- A short document with the given times. -/
def documentOf (createdOn expiresOn : String) : Value :=
  .object [(container, .object [
    ("serial-number", .string "7"), ("pinned-domain-cert", .string "TUlJ"),
    ("expires-on", .string expiresOn), ("created-on", .string createdOn)])]

def claimsOf (createdOn expiresOn : Instant) : Claims :=
  ⟨createdOn, expiresOn, "7", none, "TUlJ", false⟩

lemma decode_documentOf {created expires : String} {createdOn expiresOn : Instant}
    (hcreated : DateAndTime.parse created = .ok createdOn)
    (hexpires : DateAndTime.parse expires = .ok expiresOn)
    (valid : (claimsOf createdOn expiresOn).validate = .ok ()) :
    Claims.decode (documentOf created expires).compact = .ok (claimsOf createdOn expiresOn) := by
  have parsed := parse_write none (documentOf created expires) rfl (show 2 < 128 by decide)
  refine decode_eq_ok.mpr ⟨_, ⟨⟨_, parsed, rfl⟩, rfl, rfl⟩, ?_, valid⟩
  have members : claimMembers (.object [
      ("serial-number", .string "7"), ("pinned-domain-cert", .string "TUlJ"),
      ("expires-on", .string expires), ("created-on", .string created)]) =
    [("created-on", .string created), ("expires-on", .string expires),
      ("pinned-domain-cert", .string "TUlJ"), ("serial-number", .string "7")] := rfl
  rw [members, readMembers]
  simp only [List.foldlM_cons, List.foldlM_nil, put_createdOn, put_expiresOn, put_pinnedDomainCert,
    put_serialNumber, Draft.empty, once_none, readInstant, readText, hcreated, hexpires, ok_bind]
  rfl

/-- The first instant of the year 0, a day's offset east of Greenwich. -/
def beforeYear0 : Instant := instantOf (-62167305540) 0

def leapSecond2016 : Instant := instantOf 1483228799 1250000000

/-- The last second of the year 9999, a day's offset west of Greenwich. -/
def afterYear9999 : Instant := instantOf 253402387139 0

/-- A leap second in another layout is read again; the last second of the year 9999, as it is
counted west of Greenwich, is not. -/
theorem encode_decode_year9999 :
    (Claims.decode (documentOf "2016-12-31t18:59:60.2500-05:00" "2016-12-31 23:59:60.25Z").compact =
        .ok (claimsOf leapSecond2016 leapSecond2016) ∧
      ∃ b, (claimsOf leapSecond2016 leapSecond2016).encode = .ok b ∧
        Claims.decode b = .ok (claimsOf leapSecond2016 leapSecond2016)) ∧
    Claims.decode (documentOf "2016-12-31t18:59:60.2500-05:00" "9999-12-31 23:59:59-23:59").compact =
        .ok (claimsOf leapSecond2016 afterYear9999) ∧
      ∃ b, (claimsOf leapSecond2016 afterYear9999).encode = .ok b ∧
        ∃ detail, Claims.decode b = .error (.syntaxError detail) := by
  have inside : Claims.decode
      (documentOf "2016-12-31t18:59:60.2500-05:00" "2016-12-31 23:59:60.25Z").compact =
        .ok (claimsOf leapSecond2016 leapSecond2016) :=
    decode_documentOf (by decide +kernel) (by decide +kernel) rfl
  have outside : Claims.decode
      (documentOf "2016-12-31t18:59:60.2500-05:00" "9999-12-31 23:59:59-23:59").compact =
        .ok (claimsOf leapSecond2016 afterYear9999) :=
    decode_documentOf (by decide +kernel) (by decide +kernel) rfl
  obtain ⟨b, written, reread, -⟩ := encode_decode inside
  obtain ⟨b', written', -, unread, -⟩ := encode_decode outside
  exact ⟨⟨inside, b, written, reread (by decide)⟩, outside, b', written', unread (by decide)⟩

/-- Midnight of the first day of the year 0, as it is counted east of Greenwich, is read and written,
but what is written is not read. -/
theorem decode_encode_year0 :
    Claims.decode (documentOf "0000-01-01T00:00:00+23:59" "2016-12-31T23:59:60.25Z").compact =
        .ok (claimsOf beforeYear0 leapSecond2016) ∧
      (claimsOf beforeYear0 leapSecond2016).encode =
        .ok (value (claimsOf beforeYear0 leapSecond2016)).compact ∧
      Claims.decode (value (claimsOf beforeYear0 leapSecond2016)).compact ≠
        .ok (claimsOf beforeYear0 leapSecond2016) := by
  refine ⟨decode_documentOf (by decide +kernel) (by decide +kernel) rfl,
    encode_eq_ok.mpr ⟨rfl, rfl⟩, ?_⟩
  obtain ⟨detail, unread⟩ := decode_compact_signed (c := claimsOf beforeYear0 leapSecond2016) (by decide)
  rw [unread]
  simp

end BootstrapVoucher.Proofs
