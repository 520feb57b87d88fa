import BootstrapVoucher.Proofs.Timestamps

/-!
# Date-and-time texts read back

The canonical text of an instant is a timestamp exactly when the year has four digits: a sign in front
of the year is not a digit. Fractions survive, and so does the leap second at the end of a minute,
which is shown as the second 60. In a leap second within a minute the text shows the next second, and
that is the instant which is read. A text that is read has a year of four digits and an offset below a
day, which bounds the years that reading can reach; offsets are whole minutes, so no leap second within
a minute is ever read.
-/

namespace BootstrapVoucher.Time.Instant

/-- The clock shows an instant as it is unless it is a leap second within a minute. -/
def IsShown (t : Instant) : Prop := second ≤ t.nanos → t.seconds % 60 = 59

instance (t : Instant) : Decidable t.IsShown :=
  inferInstanceAs (Decidable (_ → _))

/-- What the clock shows: in a leap second within a minute that is the next second. -/
def shown (t : Instant) : Instant :=
  if h : second ≤ t.nanos ∧ t.seconds % 60 ≠ 59 then
    { seconds := t.seconds + 1
      nanos := t.nanos - second
      first_le := Int.le_trans t.first_le (by omega)
      le_last := by
        have := t.le_last
        omega
      nanos_lt := Nat.lt_of_le_of_lt (Nat.sub_le _ _) t.nanos_lt }
  else t

lemma shown_of_isShown {t : Instant} (h : t.IsShown) : t.shown = t :=
  dif_neg fun hidden => hidden.2 (h hidden.1)

lemma shown_of_not_isShown {t : Instant} (h : ¬t.IsShown) :
    (second ≤ t.nanos ∧ t.seconds % 60 ≠ 59) ∧
      t.shown.seconds = t.seconds + 1 ∧ t.shown.nanos = t.nanos - second := by
  have hidden : second ≤ t.nanos ∧ t.seconds % 60 ≠ 59 := Classical.not_imp.mp h
  unfold shown
  rw [dif_pos hidden]
  exact ⟨hidden, rfl, rfl⟩

lemma isShown_shown (t : Instant) : t.shown.IsShown := by
  by_cases h : t.IsShown
  · rwa [shown_of_isShown h]
  · obtain ⟨-, -, nanos⟩ := shown_of_not_isShown h
    have := t.nanos_lt
    intro leap
    omega

lemma shown_eq_self_iff {t : Instant} : t.shown = t ↔ t.IsShown :=
  ⟨fun same => same ▸ isShown_shown t, shown_of_isShown⟩

/-- The clock is never behind, so an end that is not before a time that is shown as it is stays there. -/
lemma shown_le_shown {a b : Instant} (h : a ≤ b) (shown : a.IsShown) : a.shown ≤ b.shown := by
  rw [shown_of_isShown shown]
  by_cases hb : b.IsShown
  · rwa [shown_of_isShown hb]
  · obtain ⟨-, seconds, -⟩ := shown_of_not_isShown hb
    change a.seconds < b.seconds ∨ _ at h
    change a.seconds < b.shown.seconds ∨ _
    omega

/-- After a second the leap second is over, and the clock shows the same again or later. -/
lemma shown_le_shown_of_add {t u : Instant} {v : Span} (h : ¬t.IsShown) (added : t.add? v = some u)
    (long : second ≤ v.nanos) : t.shown ≤ u.shown := by
  obtain ⟨⟨leap, -⟩, seconds, nanos⟩ := shown_of_not_isShown h
  unfold second at leap long nanos
  have whole : 0 < v.wholeSeconds := by
    unfold Span.wholeSeconds second
    rw [Int.tdiv_eq_ediv_of_nonneg (by omega)]
    omega
  unfold add? at added
  simp only [second, leap, whole, true_or, not_true, and_false, false_and, if_false, and_self,
    if_true] at added
  obtain ⟨hseconds, hnanos⟩ := Proofs.of?_eq_some added
  have ended : u.IsShown := by
    unfold IsShown second
    omega
  rw [shown_of_isShown ended]
  change t.shown.seconds < u.seconds ∨ t.shown.seconds = u.seconds ∧ t.shown.nanos ≤ u.nanos
  omega

end BootstrapVoucher.Time.Instant

namespace BootstrapVoucher.Proofs

open Time Time.DateAndTime
open Text (fixedDigits)

/-! ### The parts of an instant -/

/-- Whether the year of an instant is written with four digits and no sign. -/
def HasFourDigitYear (t : Instant) : Prop := 0 ≤ t.date.year ∧ t.date.year ≤ 9999

instance (t : Instant) : Decidable (HasFourDigitYear t) :=
  inferInstanceAs (Decidable (0 ≤ t.date.year ∧ t.date.year ≤ 9999))

/-- The fraction digits are exact. -/
lemma isFraction_fraction {n : Nat} (h : n < second) : IsFraction (fraction n) n := by
  have digits (width m : Nat) (some_ : 0 < width) (fits : m < 10 ^ width)
      (value : m * 10 ^ 9 / 10 ^ width = n) : IsFraction ('.' :: fixedDigits width m) n := by
    rw [← value]
    exact .digits some_ fits
  have small : n < 1000000000 := h
  unfold fraction
  split_ifs with none milli micro
  · rw [none]
    exact .absent
  · exact digits 3 (n / 1000000) (by decide) (by omega) (by omega)
  · exact digits 6 (n / 1000) (by decide) (by omega) (by omega)
  · exact digits 9 n (by decide) small (by omega)

lemma isFraction_nanos (t : Instant) : IsFraction (fraction (t.nanos % second)) (t.nanos % second) :=
  isFraction_fraction (Nat.mod_lt t.nanos (by decide))

lemma utf8_timeText (t : Instant) :
    t.timeText.flatMap String.utf8EncodeChar = digitBytes 2 (t.secondOfDay / 3600) ++ 58 ::
      (digitBytes 2 (t.secondOfDay / 60 % 60) ++ 58 ::
        (digitBytes 2 (t.secondOfDay % 60 + if t.isLeap then 1 else 0) ++
          (fraction (t.nanos % second)).flatMap String.utf8EncodeChar)) := by
  simp only [Instant.timeText, List.flatMap_append, List.flatMap_cons, utf8_fixedDigits,
    List.append_assoc]
  rfl

lemma secondOfDay_lt (t : Instant) : t.secondOfDay < 86400 := by
  unfold Instant.secondOfDay
  omega

/-- The clock shows the second 60 in the leap second of a minute, and only then. -/
lemma clock_timeText {t : Instant} (h : t.IsShown) :
    clock (t.secondOfDay / 3600) (t.secondOfDay / 60 % 60)
      (t.secondOfDay % 60 + if t.isLeap then 1 else 0) (t.nanos % second) =
        .ok (t.secondOfDay, t.nanos) := by
  have day := secondOfDay_lt t
  have bound := t.nanos_lt
  have billion : second = 10 ^ 9 := rfl
  rw [clock_eq_ok]
  by_cases leap : second ≤ t.nanos
  · have last : t.secondOfDay % 60 = 59 := by
      have := h leap
      unfold Instant.secondOfDay
      omega
    simp only [Instant.isLeap, leap, decide_true, if_true, last]
    rw [billion] at bound leap ⊢
    omega
  · have below : t.secondOfDay % 60 ≠ 60 := Nat.ne_of_lt (Nat.mod_lt _ (by decide))
    simp only [Instant.isLeap, leap, decide_false, Bool.false_eq_true, if_false, Nat.add_zero, below]
    rw [billion] at leap ⊢
    omega

lemma timeOfDay_timeText {t : Instant} (h : t.IsShown) (s : Bytes) :
    timeOfDay (t.timeText.flatMap String.utf8EncodeChar ++ 90 :: s) =
      .ok ((t.secondOfDay, t.nanos), 90 :: s) := by
  have after : IsAfterSecond (90 :: s) := ⟨90, s, rfl, by decide, by decide⟩
  have shown := timeOfDay_of_isFraction (clock_timeText h) (isFraction_nanos t) after
  simp only [utf8_timeText, List.append_assoc, List.cons_append]
  exact shown

lemma date_shown (t : Instant) : t.shown.date = t.date := by
  by_cases h : t.IsShown
  · rw [Instant.shown_of_isShown h]
  obtain ⟨⟨-, within⟩, seconds, -⟩ := Instant.shown_of_not_isShown h
  have day : t.shown.day = t.day := by
    unfold Instant.day
    omega
  rw [Instant.date, day, Instant.date]

/-- Within a minute the next second differs from a leap second in nothing that is written. -/
lemma format_shown (t : Instant) : format t.shown = format t := by
  by_cases h : t.IsShown
  · rw [Instant.shown_of_isShown h]
  obtain ⟨⟨leap, within⟩, seconds, nanos⟩ := Instant.shown_of_not_isShown h
  have bound := t.nanos_lt
  have clock : t.shown.secondOfDay = t.secondOfDay + 1 ∧ t.secondOfDay % 60 + 1 < 60 := by
    unfold Instant.secondOfDay
    omega
  have noLeap : t.shown.isLeap = false := by
    simp only [Instant.isLeap, decide_eq_false_iff_not]
    omega
  have fine : t.shown.nanos % second = t.nanos % second := by
    rw [nanos, Nat.mod_eq_sub_mod leap]
  have time : t.shown.timeText = t.timeText := by
    simp only [Instant.timeText, noLeap, fine, show t.isLeap = true from decide_eq_true leap, if_true,
      Bool.false_eq_true, if_false, Nat.add_zero, clock.1]
    rw [show (t.secondOfDay + 1) / 3600 = t.secondOfDay / 3600 by omega,
      show (t.secondOfDay + 1) / 60 = t.secondOfDay / 60 by omega,
      show (t.secondOfDay + 1) % 60 = t.secondOfDay % 60 + 1 by omega]
  rw [format, date_shown, time, format]

/-! ### The whole text -/

lemma day_add_secondOfDay (t : Instant) : t.day * 86400 + t.secondOfDay = t.seconds := by
  unfold Instant.day Instant.secondOfDay
  omega

lemma isTimestamp_format {t : Instant} (h : HasFourDigitYear t) (shown : t.IsShown) :
    IsTimestamp (format t) t := by
  obtain ⟨year, hyear⟩ := Int.eq_ofNat_of_zero_le h.1
  have year_lt : year < 10000 := by
    have := h.2
    omega
  have counted := isDayNumber_ofDays t.day
  have date : Date.ofDays t.day = ⟨year, t.date.month, t.date.day⟩ := by
    rw [← hyear]
    rfl
  rw [date] at counted
  obtain ⟨hour_lt, minute_lt, shown_le, seconds, nanos⟩ := clock_eq_ok.mp (clock_timeText shown)
  have text : format t = String.ofList
      (fixedDigits 4 year ++ '-' :: fixedDigits 2 t.date.month ++ '-' :: fixedDigits 2 t.date.day ++
        'T' :: fixedDigits 2 (t.secondOfDay / 3600) ++ ':' :: fixedDigits 2 (t.secondOfDay / 60 % 60) ++
          ':' :: fixedDigits 2 (t.secondOfDay % 60 + if t.isLeap then 1 else 0) ++
            fraction (t.nanos % second) ++ ['Z']) := by
    have digits : yearText t.date.year = fixedDigits 4 year := by
      rw [yearText, if_pos (show 0 ≤ t.date.year ∧ t.date.year ≤ 9999 from h), hyear]
      rfl
    simp only [format, Date.text, digits, Instant.timeText, List.append_assoc, List.cons_append]
  have split := day_add_secondOfDay t
  rw [text]
  refine .mk year_lt counted (by simp) hour_lt minute_lt shown_le (isFraction_nanos t)
    (.utc (by simp)) ?_ nanos
  omega

lemma hasFourDigitYear_shown {t : Instant} : HasFourDigitYear t.shown ↔ HasFourDigitYear t := by
  rw [HasFourDigitYear, date_shown, HasFourDigitYear]

/-- From the canonical text of an instant of the years 0 to 9999 the instant is read that the text
shows. -/
theorem parse_format {t : Instant} (h : HasFourDigitYear t) : parse (format t) = .ok t.shown := by
  rw [← format_shown]
  exact parse_of_isTimestamp (isTimestamp_format (hasFourDigitYear_shown.mpr h) (Instant.isShown_shown t))

/-! ### Years that are not read -/

/-- A year of more or fewer digits starts with a sign. -/
lemma utf8_signed_date {d : Date} (h : ¬(0 ≤ d.year ∧ d.year ≤ 9999)) :
    ∃ x rest, d.text.flatMap String.utf8EncodeChar = x :: rest ∧
      (Text.digitValue? x).isSome = false := by
  simp only [Date.text, yearText, if_neg h, List.flatMap_append, List.flatMap_cons]
  by_cases hsign : d.year < 0
  · rw [if_pos hsign]
    exact ⟨45, _, rfl, rfl⟩
  · rw [if_neg hsign]
    exact ⟨43, _, rfl, rfl⟩

lemma ofText_format (t : Instant) : Bytes.ofText (format t) =
    t.date.text.flatMap String.utf8EncodeChar ++
      84 :: (t.timeText.flatMap String.utf8EncodeChar ++ [90]) := by
  rw [format, ofText_ofList]
  simp only [List.flatMap_append, List.flatMap_cons, List.flatMap_nil, List.append_assoc]
  rfl

lemma length_le_utf8 (cs : List Char) : cs.length ≤ (cs.flatMap String.utf8EncodeChar).length := by
  induction cs with
  | nil => exact Nat.le_refl _
  | cons c cs ih =>
    have hpos := List.length_pos_iff.mpr (String.utf8EncodeChar_ne_nil (c := c))
    rw [List.flatMap_cons, List.length_append, List.length_cons]
    omega

lemma length_yearText (year : Int) : 4 ≤ (yearText year).length := by
  unfold yearText
  split
  · exact Nat.le_of_eq (Text.length_fixedDigits 4 _).symm
  · rw [List.length_cons, Text.paddedDigits, List.length_append, List.length_replicate]
    omega

/-- A date-and-time text is never too short to be read. -/
lemma length_format (t : Instant) : 19 ≤ (Bytes.ofText (format t)).length := by
  have hle := length_le_utf8 (t.date.text ++ 'T' :: t.timeText ++ ['Z'])
  have hyear := length_yearText t.date.year
  rw [format, ofText_ofList]
  refine Nat.le_trans ?_ hle
  simp only [Date.text, Instant.timeText, List.length_append, List.length_cons,
    Text.length_fixedDigits]
  omega

/-- A signed year is not read. -/
theorem parse_format_signed {t : Instant} (h : ¬HasFourDigitYear t) :
    parse (format t) = .error .invalid := by
  have hlength := length_format t
  obtain ⟨x, rest, hdate, hx⟩ := utf8_signed_date h
  have hnumber : number (x :: (rest ++ 84 :: (t.timeText.flatMap String.utf8EncodeChar ++ [90])).take 3) =
      .error .invalid := by
    have hnone : Text.digitValue? x = none := by simpa using hx
    rw [number, List.foldlM_cons, hnone]
    rfl
  unfold parse
  rw [if_neg (by omega), ofText_format, hdate, List.cons_append]
  unfold DateAndTime.date
  rw [List.take_succ_cons, hnumber]
  rfl

/-! ### Instants that are reached -/

/-- Every leap second that is read is at the end of a minute. -/
theorem isShown_of_parse {s : String} {t : Instant} (h : parse s = .ok t) : t.IsShown := by
  cases parse_eq_ok.mp h with
  | @mk _ _ _ _ _ shown nanos _ _ _ _ _ _ _ _ _ _ _ _ fine zoned seconds read =>
  have below := fine.nanos_lt
  have minutes := zoned.wholeMinutes
  intro leap
  have last : shown = 60 := by
    by_contra other
    rw [if_neg other] at read
    omega
  omega

/-- Reading moves a time into another year at most by the offset, and so by one year at most. -/
theorem parse_year {s : String} {t : Instant} (h : parse s = .ok t) :
    -1 ≤ t.date.year ∧ t.date.year ≤ 10000 := by
  cases parse_eq_ok.mp h with
  | @mk year _ _ _ _ _ _ days _ _ _ _ _ year_lt counted _ hour_lt minute_lt _ _ zoned seconds _ =>
  obtain ⟨real, counts⟩ := isDayNumber_iff.mp counted
  obtain ⟨hfirst, hlast⟩ := toDays_lt real
  simp only [counts] at hfirst hlast
  obtain ⟨hbegin, hend⟩ := yearStart_yearOfDays t.day
  have hyear : t.date.year = Date.yearOfDays t.day := rfl
  have hoffset := zoned.natAbs_lt
  have hday : days - 1 ≤ t.day ∧ t.day ≤ days + 1 := by
    unfold Instant.day
    omega
  have hzero : yearStart 0 = yearStart (-1) + 365 := by decide
  rw [hyear]
  constructor
  · by_contra hlt
    have hbefore := yearStart_mono (by omega : Date.yearOfDays t.day + 1 ≤ -1)
    have hlow := yearStart_mono (Int.natCast_nonneg year)
    omega
  · by_contra hlt
    have hafter := yearStart_mono (by omega : 10000 + 1 ≤ Date.yearOfDays t.day)
    have hhigh := yearStart_mono (by omega : (year : Int) + 1 ≤ 10000)
    have hnext : yearStart (10000 + 1) = yearStart 10000 + 366 := by decide
    omega

end BootstrapVoucher.Proofs
