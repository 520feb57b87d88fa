import BootstrapVoucher.Proofs.TimeLine
import BootstrapVoucher.Proofs.Validity

/-!
# How long claims are valid

Claims that are issued last exactly as long as they were asked to, to the nanosecond, wherever on the
time line they start; they are refused for the first thing that stands in the way. Claims that are
read from a document do not end before they start, but their length is a span and spans leave out the
leap second at the end of a day: claims that start in it and end in the second after it can have a
negative length, or none.
-/

namespace BootstrapVoucher.Proofs

open Time Document

/-! ### Claims that are issued -/

/-- Claims can be issued for this device, owner and window. -/
structure Issuable (serialNumber pdcPem : String) (createdOn : Instant) (validity : Span) : Prop where
  inside : IsOnTimeLine (place createdOn + validity.nanos)
  present : serialNumber ≠ ""
  forward : 0 ≤ validity.nanos
  pinned : ∃ body der, Armor.strip pdcPem = .ok body ∧ Armor.decodeBody body = .ok der

/-- The error for the first thing that keeps claims from being issued, in the order end of the window,
frame of the certificate, serial number, direction of the window, base64 of the certificate. -/
inductive FirstObstacle (serialNumber pdcPem : String) (createdOn : Instant) (validity : Span) :
    FormatError → Prop
  | window (outside : ¬IsOnTimeLine (place createdOn + validity.nanos)) :
    FirstObstacle serialNumber pdcPem createdOn validity
      (.semanticError ("validity window " ++ validity.text ++ " out of range"))
  | frame (inside : IsOnTimeLine (place createdOn + validity.nanos)) {fault : Armor.Fault}
      (unframed : Armor.strip pdcPem = .error fault) :
    FirstObstacle serialNumber pdcPem createdOn validity (.pemError fault.message)
  | serial (inside : IsOnTimeLine (place createdOn + validity.nanos)) {body : String}
      (framed : Armor.strip pdcPem = .ok body) (missing : serialNumber = "") :
    FirstObstacle serialNumber pdcPem createdOn validity (.semanticError "empty serial-number")
  | reversed {expiresOn : Instant} (noLeap : expiresOn.isLeap = false)
      (sum : place expiresOn = place createdOn + validity.nanos) {body : String}
      (framed : Armor.strip pdcPem = .ok body) (present : serialNumber ≠ "")
      (backward : validity.nanos < 0) :
    FirstObstacle serialNumber pdcPem createdOn validity (.semanticError
      ("expires-on " ++ expiresOn.text ++ " precedes created-on " ++ createdOn.text))
  | body (inside : IsOnTimeLine (place createdOn + validity.nanos)) {body : String}
      (framed : Armor.strip pdcPem = .ok body) (present : serialNumber ≠ "")
      (forward : 0 ≤ validity.nanos) {fault : Armor.Fault}
      (undecodable : Armor.decodeBody body = .error fault) :
    FirstObstacle serialNumber pdcPem createdOn validity (.pemError fault.message)

/-- The claims that are made before anything is said about their validity. -/
def draftClaims (serialNumber body : String) (createdOn expiresOn : Instant) : Claims :=
  ⟨createdOn, expiresOn, serialNumber, none, body, false⟩

section Issue

variable {serialNumber pdcPem body : String} {createdOn expiresOn : Instant} {validity : Span}

lemma issue_of_outside (outside : createdOn.add? validity = none) :
    Claims.issue serialNumber pdcPem createdOn validity =
      .error (.semanticError ("validity window " ++ validity.text ++ " out of range")) := by
  unfold Claims.issue Claims.windowEnd
  rw [outside]
  rfl

lemma issue_of_unframed (added : createdOn.add? validity = some expiresOn) {fault : Armor.Fault}
    (unframed : Armor.strip pdcPem = .error fault) :
    Claims.issue serialNumber pdcPem createdOn validity = .error (.pemError fault.message) := by
  unfold Claims.issue Claims.windowEnd
  rw [added, unframed]
  rfl

/-- Once the window has an end and the certificate is out of its frame, only validity is asked for. -/
lemma issue_of_framed (added : createdOn.add? validity = some expiresOn)
    (framed : Armor.strip pdcPem = .ok body) :
    Claims.issue serialNumber pdcPem createdOn validity =
      (draftClaims serialNumber body createdOn expiresOn).validate >>= fun _ =>
        .ok (draftClaims serialNumber body createdOn expiresOn) := by
  unfold Claims.issue Claims.windowEnd
  rw [added, framed]
  rfl

lemma issue_of_valid (added : createdOn.add? validity = some expiresOn)
    (framed : Armor.strip pdcPem = .ok body)
    (valid : (draftClaims serialNumber body createdOn expiresOn).Valid) :
    Claims.issue serialNumber pdcPem createdOn validity =
      .ok (draftClaims serialNumber body createdOn expiresOn) := by
  rw [issue_of_framed added framed, validate_eq_ok.mpr valid, ok_bind]

lemma issue_of_violation (added : createdOn.add? validity = some expiresOn)
    (framed : Armor.strip pdcPem = .ok body) {e : FormatError}
    (violated : FirstViolation (draftClaims serialNumber body createdOn expiresOn) e) :
    Claims.issue serialNumber pdcPem createdOn validity = .error e := by
  rw [issue_of_framed added framed, validate_eq_error.mpr violated, error_bind]

lemma issue_eq_ok {c : Claims} (h : Claims.issue serialNumber pdcPem createdOn validity = .ok c) :
    ∃ expiresOn body, createdOn.add? validity = some expiresOn ∧
      c = draftClaims serialNumber body createdOn expiresOn := by
  cases added : createdOn.add? validity with
  | none =>
    rw [issue_of_outside added] at h
    cases h
  | some expiresOn =>
    cases framed : Armor.strip pdcPem with
    | error fault =>
      rw [issue_of_unframed added framed] at h
      cases h
    | ok body =>
      rw [issue_of_framed added framed, bind_eq_ok] at h
      obtain ⟨-, -, ⟨⟩⟩ := h
      exact ⟨expiresOn, body, rfl, rfl⟩

variable (noLeap : createdOn.isLeap = false)

include noLeap

lemma exists_end (inside : IsOnTimeLine (place createdOn + validity.nanos)) :
    ∃ expiresOn, createdOn.add? validity = some expiresOn := by
  cases added : createdOn.add? validity with
  | none => exact absurd inside ((add?_eq_none noLeap).mp added)
  | some expiresOn => exact ⟨expiresOn, rfl⟩

/-- A window ends before it starts just if its length is negative. -/
lemma created_le_end (added : createdOn.add? validity = some expiresOn) :
    createdOn ≤ expiresOn ↔ 0 ≤ validity.nanos := by
  obtain ⟨endNoLeap, sum⟩ := (add?_eq_some noLeap).mp added
  rw [place_le noLeap endNoLeap, sum]
  omega

lemma issue_of_issuable (h : Issuable serialNumber pdcPem createdOn validity) :
    ∃ c, Claims.issue serialNumber pdcPem createdOn validity = .ok c := by
  obtain ⟨inside, present, forward, body, der, framed, decoded⟩ := h
  obtain ⟨expiresOn, added⟩ := exists_end noLeap inside
  exact ⟨_, issue_of_valid added framed
    ⟨present, (created_le_end noLeap added).mpr forward, der, decoded⟩⟩

lemma issue_of_obstacle {e : FormatError}
    (h : FirstObstacle serialNumber pdcPem createdOn validity e) :
    Claims.issue serialNumber pdcPem createdOn validity = .error e := by
  cases h with
  | window outside => exact issue_of_outside ((add?_eq_none noLeap).mpr outside)
  | frame inside unframed =>
    obtain ⟨expiresOn, added⟩ := exists_end noLeap inside
    exact issue_of_unframed added unframed
  | serial inside framed missing =>
    obtain ⟨expiresOn, added⟩ := exists_end noLeap inside
    exact issue_of_violation added framed (.serial missing)
  | reversed endNoLeap sum framed present backward =>
    have added := (add?_eq_some noLeap).mpr ⟨endNoLeap, sum⟩
    refine issue_of_violation added framed (.window present fun ordered => ?_)
    exact absurd ((created_le_end noLeap added).mp ordered) (not_le.mpr backward)
  | body inside framed present forward undecodable =>
    obtain ⟨expiresOn, added⟩ := exists_end noLeap inside
    exact issue_of_violation added framed
      (.body present ((created_le_end noLeap added).mpr forward) undecodable)

/-- Nothing else can stand in the way of claims. -/
lemma issuable_or_obstacle :
    Issuable serialNumber pdcPem createdOn validity ∨
      ∃ e, FirstObstacle serialNumber pdcPem createdOn validity e := by
  by_cases inside : IsOnTimeLine (place createdOn + validity.nanos)
  · cases framed : Armor.strip pdcPem with
    | error fault => exact .inr ⟨_, .frame inside framed⟩
    | ok body =>
      by_cases missing : serialNumber = ""
      · exact .inr ⟨_, .serial inside framed missing⟩
      by_cases forward : 0 ≤ validity.nanos
      · cases decoded : Armor.decodeBody body with
        | error fault => exact .inr ⟨_, .body inside framed missing forward decoded⟩
        | ok der => exact .inl ⟨inside, missing, forward, body, der, framed, decoded⟩
      · obtain ⟨expiresOn, added⟩ := exists_end noLeap inside
        obtain ⟨endNoLeap, sum⟩ := (add?_eq_some noLeap).mp added
        exact .inr ⟨_, .reversed endNoLeap sum framed missing (not_le.mp forward)⟩
  · exact .inr ⟨_, .window inside⟩

end Issue

lemma checkAt_eq_ok {c : Claims} {at_ : Instant} :
    c.checkAt at_ = .ok () ↔ c.createdOn ≤ at_ ∧ at_ < c.expiresOn := by
  unfold Claims.checkAt
  split_ifs with early late
  · simp [not_le.mpr early]
  · simp [not_lt.mpr late]
  · simp [not_lt.mp early, not_le.mp late]

/-- Claims are issued exactly when the end of their window is on the time line, the certificate has
its frame, the serial number is not empty, the window does not run backward and the certificate is
base64; the first of these that fails is named. Their window has the given start and length, and an
instant is within it just if the time since the start is not negative and less than the length. No sum
and no difference leaves the words that hold it. -/
theorem issued_window_is_exact {createdOn : Instant} (noLeap : createdOn.isLeap = false)
    (serialNumber pdcPem : String) (validity : Span) :
    ((∃ c, Claims.issue serialNumber pdcPem createdOn validity = .ok c) ↔
      Issuable serialNumber pdcPem createdOn validity) ∧
    (∀ e, Claims.issue serialNumber pdcPem createdOn validity = .error e ↔
      FirstObstacle serialNumber pdcPem createdOn validity e) ∧
    (∀ c, Claims.issue serialNumber pdcPem createdOn validity = .ok c →
      c.createdOn = createdOn ∧ c.validity = validity ∧
      ∀ at_ : Instant, at_.isLeap = false →
        (createdOn.spanTo at_).nanos = place at_ - place createdOn ∧
        (c.checkAt at_ = .ok () ↔
          0 ≤ (createdOn.spanTo at_).nanos ∧ (createdOn.spanTo at_).nanos < validity.nanos)) ∧
    (IsBounded validity → AddsInWords createdOn validity) ∧
    ∀ a b : Instant, IsBounded (a.spanTo b) := by
  refine ⟨⟨?_, issue_of_issuable noLeap⟩, fun e => ⟨?_, issue_of_obstacle noLeap⟩, ?_,
    addsInWords noLeap, isBounded_spanTo⟩
  · rintro ⟨c, issued⟩
    rcases issuable_or_obstacle noLeap with issuable | ⟨e, obstacle⟩
    · exact issuable
    · rw [issue_of_obstacle noLeap obstacle] at issued
      cases issued
  · intro refused
    rcases issuable_or_obstacle noLeap with issuable | ⟨e', obstacle⟩
    · obtain ⟨c, issued⟩ := issue_of_issuable noLeap issuable
      rw [refused] at issued
      cases issued
    · rw [issue_of_obstacle noLeap obstacle] at refused
      cases refused
      exact obstacle
  · intro c issued
    obtain ⟨expiresOn, body, added, rfl⟩ := issue_eq_ok issued
    obtain ⟨endNoLeap, sum⟩ := (add?_eq_some noLeap).mp added
    refine ⟨rfl, spanTo_of_add? noLeap added, fun at_ atNoLeap => ?_⟩
    have elapsed := spanTo_of_not_leap noLeap atNoLeap
    refine ⟨elapsed, ?_⟩
    rw [checkAt_eq_ok, elapsed]
    simp only [draftClaims, place_le noLeap atNoLeap, place_lt atNoLeap endNoLeap, sum]
    omega

/-- Three quarters of the last second of the year 1969 have passed. -/
def december1969 : Instant := instantOf (-1) 750000000

/-- A fifth of a second into the year 1970. -/
def january1970 : Instant := instantOf 0 200000000

/-- A quarter of the last second of the year 1969 has passed. -/
def quarterSecond : Instant := instantOf (-1) 250000000

def halfSecond : Span := ⟨500000000⟩

/-- The longest of all spans backward in time. -/
def longestBackward : Span := ⟨-9223372036854775807000000⟩

/-- Half a second that crosses the start of the count, and two spans that cannot be granted. -/
theorem issued_window_is_exact_1970 :
    december1969.isLeap = false ∧
    (∃ c, Claims.issue "7" (Armor.add "TUlJ") december1969 halfSecond = .ok c ∧
      c.validity = halfSecond ∧ c.checkAt january1970 = .ok () ∧ c.checkAt c.expiresOn ≠ .ok ()) ∧
    Claims.issue "" "" december1969 longestBackward =
      .error (.semanticError ("validity window " ++ longestBackward.text ++ " out of range")) ∧
    Claims.issue "7" (Armor.add "TUlJ") december1969 ⟨-500000000⟩ =
      .error (.semanticError
        ("expires-on " ++ quarterSecond.text ++ " precedes created-on " ++ december1969.text)) := by
  have noLeap : december1969.isLeap = false := rfl
  have framed : Armor.strip (Armor.add "TUlJ") = .ok "TUlJ" := rfl
  obtain ⟨granted, -, exact_, -⟩ := issued_window_is_exact noLeap "7" (Armor.add "TUlJ") halfSecond
  obtain ⟨-, outside, -⟩ := issued_window_is_exact noLeap "" "" longestBackward
  obtain ⟨-, backward, -⟩ := issued_window_is_exact noLeap "7" (Armor.add "TUlJ") ⟨-500000000⟩
  have inside : IsOnTimeLine (place december1969 + halfSecond.nanos) := by
    unfold IsOnTimeLine
    decide
  have before : ¬IsOnTimeLine (place december1969 + longestBackward.nanos) := by
    unfold IsOnTimeLine
    decide
  obtain ⟨c, issued⟩ := granted.mpr ⟨inside, by decide, by decide, "TUlJ", _, framed, rfl⟩
  obtain ⟨-, length, within⟩ := exact_ c issued
  refine ⟨noLeap, ⟨c, issued, length, (within january1970 rfl).2.mpr (by decide), ?_⟩,
    (outside _).mpr (.window before), (backward _).mpr ?_⟩
  · rw [Ne, checkAt_eq_ok]
    exact fun inside => lt_irrefl _ inside.2
  · have endNoLeap : quarterSecond.isLeap = false := rfl
    exact .reversed endNoLeap rfl framed (by decide) (by decide)

/-! ### Claims that are read -/

/-- Claims that are read have a negative length just if they start in the leap second at the end of a
day and end in the next second before as much of it has passed, and no length just if they end when
they start or as much of it has passed. -/
theorem validity_of_decode {s : Bytes} {c : Claims} (h : Claims.decode s = .ok c) :
    (c.validity.nanos < 0 ↔
      MeetAtMidnight c.createdOn c.expiresOn ∧ place c.expiresOn < place c.createdOn) ∧
    (c.validity.nanos = 0 ↔ c.expiresOn = c.createdOn ∨
      MeetAtMidnight c.createdOn c.expiresOn ∧ place c.expiresOn = place c.createdOn) := by
  have ordered := (valid_of_decode h).window
  obtain ⟨created, expires⟩ := hasShownTimes_of_decode h
  exact ⟨spanTo_neg_iff created expires ordered, spanTo_eq_zero_iff created expires ordered⟩

/-- Nine tenths of the leap second at the end of the year 2016 have passed. -/
def lastLeapSecond : Instant := instantOf 1483228799 1900000000

/-- The same, twelve hours earlier. -/
def noonLeapSecond : Instant := instantOf 1483185599 1900000000

def noon2016 : Instant := instantOf 1483185600 0

def newYear2017 : Instant := instantOf 1483228800 0

lemma decode_noon : Claims.decode
    (documentOf "2016-12-31T11:59:60.9Z" "2016-12-31T12:00:00Z").compact =
      .ok (claimsOf noonLeapSecond noon2016) :=
  decode_documentOf (by decide +kernel) (by decide +kernel) rfl

lemma decode_midnight : Claims.decode
    (documentOf "2016-12-31T23:59:60.9Z" "2017-01-01T00:00:00Z").compact =
      .ok (claimsOf lastLeapSecond newYear2017) :=
  decode_documentOf (by decide +kernel) (by decide +kernel) rfl

/-- The same tenth of a second is a tenth of a second at noon, but not at midnight. -/
theorem validity_of_decode_leapSeconds :
    Claims.decode (documentOf "2016-12-31T11:59:60.9Z" "2016-12-31T12:00:00Z").compact =
        .ok (claimsOf noonLeapSecond noon2016) ∧
      0 < (claimsOf noonLeapSecond noon2016).validity.nanos ∧
    Claims.decode (documentOf "2016-12-31T23:59:60.9Z" "2017-01-01T00:00:00Z").compact =
        .ok (claimsOf lastLeapSecond newYear2017) ∧
      (claimsOf lastLeapSecond newYear2017).validity.nanos < 0 := by
  obtain ⟨negative, zero⟩ := validity_of_decode decode_noon
  have apart : ¬MeetAtMidnight noonLeapSecond noon2016 := by
    intro meet
    have last := meet.last
    revert last
    decide
  have notNegative := mt negative.mp fun h => apart h.1
  have notZero := mt zero.mp (by
    rintro (same | h)
    · revert same
      decide
    · exact apart h.1)
  refine ⟨decode_noon, by omega, decode_midnight, ?_⟩
  exact (validity_of_decode decode_midnight).1.mpr ⟨⟨rfl, rfl, rfl⟩, by decide⟩

/-- The same fraction of a second as in `lastLeapSecond`, one second later. -/
def afterMidnight : Instant := instantOf 1483228800 900000000

/-- Claims that end a tenth of a second after they start are read, and their length is negative; claims
that end a whole second after they start are read too, and have no length. -/
theorem negative_validity_is_read :
    (Claims.decode (documentOf "2016-12-31T23:59:60.9Z" "2017-01-01T00:00:00Z").compact =
        .ok (claimsOf lastLeapSecond newYear2017) ∧
      (claimsOf lastLeapSecond newYear2017).validity.nanos = -900000000) ∧
    Claims.decode (documentOf "2016-12-31T23:59:60.9Z" "2017-01-01T00:00:00.9Z").compact =
        .ok (claimsOf lastLeapSecond afterMidnight) ∧
      (claimsOf lastLeapSecond afterMidnight).validity.nanos = 0 ∧
      (claimsOf lastLeapSecond afterMidnight).expiresOn ≠
        (claimsOf lastLeapSecond afterMidnight).createdOn := by
  refine ⟨⟨decode_midnight, rfl⟩, ?_, rfl, by decide⟩
  exact decode_documentOf (by decide +kernel) (by decide +kernel) rfl

end BootstrapVoucher.Proofs
