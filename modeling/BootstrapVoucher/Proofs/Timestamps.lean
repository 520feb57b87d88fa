import BootstrapVoucher.Proofs.DayCount
import BootstrapVoucher.Proofs.Digits

/-!
# Timestamps and the instants they denote

A timestamp shows a date of the calendar, a time of day that may be a leap second, perhaps a fraction of
the second, and how far it is ahead of UTC or behind. The instant that it denotes is counted from these:
whole days up to the date, then the time of day, less the offset. Reading accepts the timestamps and no
other texts, and gives the instants that they denote.
-/

namespace BootstrapVoucher.Proofs

open Time Time.DateAndTime
open Text (fixedDigits digitValue?)

/-! ### What is written -/

/-- A fraction of a second, or none, and its nanoseconds; what is finer than that is cut off. -/
inductive IsFraction : List Char → Nat → Prop
  | absent : IsFraction [] 0
  | digits {width n : Nat} (some_ : 0 < width) (fits : n < 10 ^ width) :
    IsFraction ('.' :: fixedDigits width n) (n * 10 ^ 9 / 10 ^ width)

/-- A sign, and what it makes of an offset. The typographic minus is one too. -/
inductive IsSign : Char → Int → Prop
  | plus : IsSign '+' 1
  | minus : IsSign '-' (-1)
  | typographic : IsSign '\u2212' (-1)

/-- A zone and its offset from UTC in seconds, which is less than a day either way. -/
inductive IsZone : List Char → Int → Prop
  | utc {letter : Char} (known : letter ∈ ['Z', 'z']) : IsZone [letter] 0
  | shifted {sign : Char} {direction : Int} {hours minutes : Nat} (signed : IsSign sign direction)
    (hours_lt : hours < 24) (minutes_lt : minutes < 60) :
    IsZone (sign :: fixedDigits 2 hours ++ ':' :: fixedDigits 2 minutes)
      (direction * (hours * 3600 + minutes * 60))

/-- The text is a timestamp of the instant. The second 60 is the second half of a doubled second 59. -/
inductive IsTimestamp : String → Instant → Prop
  | mk {year month day hour minute shown nanos : Nat} {days offset : Int} {between : Char}
    {fraction zone : List Char} {t : Instant} (fourDigits : year < 10000)
    (counted : IsDayNumber ⟨year, month, day⟩ days) (known : between ∈ ['T', 't', ' '])
    (hour_lt : hour < 24) (minute_lt : minute < 60) (shown_le : shown ≤ 60)
    (fine : IsFraction fraction nanos) (zoned : IsZone zone offset)
    (seconds : t.seconds = days * 86400 + (hour * 3600 + minute * 60 + min shown 59) - offset)
    (nanos : t.nanos = nanos + if shown = 60 then 10 ^ 9 else 0) :
    IsTimestamp (String.ofList
      (fixedDigits 4 year ++ '-' :: fixedDigits 2 month ++ '-' :: fixedDigits 2 day ++
        between :: fixedDigits 2 hour ++ ':' :: fixedDigits 2 minute ++ ':' :: fixedDigits 2 shown ++
          fraction ++ zone)) t

/-! ### Fractions -/

lemma IsFraction.nanos_lt {cs : List Char} {nanos : Nat} (h : IsFraction cs nanos) : nanos < second := by
  cases h with
  | absent => decide
  | digits some_ fits =>
    rw [Nat.div_lt_iff_lt_mul (Nat.pow_pos (by decide)), Nat.mul_comm second]
    exact Nat.mul_lt_mul_of_pos_right fits (by decide)

/-- The nine digits that are kept make the nanoseconds. -/
lemma kept_digits {width n : Nat} (fits : n < 10 ^ width) :
    ∃ m, number ((digitBytes width n).take 9) = .ok m ∧
      m * Text.powerOfTen (9 - ((digitBytes width n).take 9).length) = n * 10 ^ 9 / 10 ^ width := by
  have power : ∀ k, Text.powerOfTen k = 10 ^ k := fun _ => rfl
  by_cases short : width ≤ 9
  · have whole : (digitBytes width n).take 9 = digitBytes width n :=
      List.take_of_length_le ((length_digitBytes width n).le.trans short)
    refine ⟨n, by rw [whole, number_digitBytes width n fits], ?_⟩
    have split : 10 ^ 9 = 10 ^ (9 - width) * 10 ^ width := by
      rw [← Nat.pow_add, Nat.sub_add_cancel short]
    rw [whole, length_digitBytes, power, split, ← Nat.mul_assoc,
      Nat.mul_div_cancel _ (Nat.pow_pos (by decide))]
  · -- cutting digits off at the end is one division
    obtain ⟨more, rfl⟩ := Nat.exists_eq_add_of_le (show 9 ≤ width by omega)
    have cut : n / 10 ^ more < 10 ^ 9 := by
      rw [Nat.div_lt_iff_lt_mul (Nat.pow_pos (by decide)), ← Nat.pow_add]
      exact fits
    rw [take_digitBytes_add, length_digitBytes, power, Nat.pow_add, Nat.mul_comm n,
      Nat.mul_div_mul_left _ _ (Nat.pow_pos (by decide))]
    exact ⟨_, number_digitBytes 9 _ cut, Nat.mul_one _⟩

lemma nanoseconds_digits {width n : Nat} (some_ : 0 < width) (fits : n < 10 ^ width) {x : UInt8}
    (stops : (digitValue? x).isSome = false) (s : Bytes) :
    nanoseconds (digitBytes width n ++ x :: s) = .ok (n * 10 ^ 9 / 10 ^ width, x :: s) := by
  have nonempty : digitBytes width n ≠ [] := by
    rw [← List.length_pos_iff, length_digitBytes]
    exact some_
  obtain ⟨m, kept, value⟩ := kept_digits fits
  unfold nanoseconds
  rw [spanDigits_digitBytes width n x stops s]
  split
  · rename_i h
    exact absurd (Prod.mk.inj h).1 nonempty
  · rename_i h
    exact absurd (Prod.mk.inj h).1 nonempty
  · rename_i digits rest _ _ h
    obtain ⟨rfl, rfl⟩ := Prod.mk.inj h
    simp only [kept, ok_bind, value]
    rfl

lemma nanoseconds_eq_ok {s rest : Bytes} {nanos : Nat} (h : nanoseconds s = .ok (nanos, rest)) :
    ∃ width n, 0 < width ∧ n < 10 ^ width ∧ nanos = n * 10 ^ 9 / 10 ^ width ∧
      s = digitBytes width n ++ rest := by
  obtain ⟨front, after, span, rfl, all⟩ := spanDigits_split s
  obtain ⟨n, digits⟩ := exists_number all
  obtain ⟨bound, written⟩ := number_eq_ok.mp digits
  obtain ⟨m, kept, value⟩ := kept_digits bound
  rw [← written] at kept value
  unfold nanoseconds at h
  rw [span] at h
  cases front with
  | nil =>
    cases after with
    | nil => cases h
    | cons x after => cases h
  | cons x front =>
    simp only [kept, ok_bind, value] at h
    cases h
    exact ⟨_, n, Nat.succ_pos _, bound, rfl, congrArg (· ++ rest) written⟩

/-! ### The parts of a text -/

lemma expect_eq_ok {x : UInt8} {s rest : Bytes} (h : expect x s = .ok rest) : s = x :: rest := by
  cases s with
  | nil => cases h
  | cons y s =>
    rw [expect] at h
    split at h
    · rename_i same
      cases h
      rw [same]
    · cases h

/-- What may follow a fraction, or a second without one: neither a point nor a digit. -/
def IsAfterSecond (s : Bytes) : Prop :=
  ∃ x rest, s = x :: rest ∧ x ≠ 46 ∧ (digitValue? x).isSome = false

lemma fractionAt_of_isFraction {cs : List Char} {nanos : Nat} (h : IsFraction cs nanos) {s : Bytes}
    (after : IsAfterSecond s) :
    fractionAt (cs.flatMap String.utf8EncodeChar ++ s) = .ok (nanos, s) := by
  obtain ⟨x, rest, rfl, point, stops⟩ := after
  cases h with
  | absent =>
    unfold fractionAt
    split
    · rename_i same
      cases same
      exact absurd rfl point
    · rfl
  | digits some_ fits =>
    rw [List.flatMap_cons, utf8_fixedDigits, List.append_assoc]
    exact nanoseconds_digits some_ fits stops rest

lemma fractionAt_eq_ok {s rest : Bytes} {nanos : Nat} (h : fractionAt s = .ok (nanos, rest)) :
    ∃ cs, IsFraction cs nanos ∧ s = cs.flatMap String.utf8EncodeChar ++ rest := by
  unfold fractionAt at h
  split at h
  · rename_i s
    obtain ⟨width, n, some_, fits, rfl, rfl⟩ := nanoseconds_eq_ok h
    refine ⟨_, .digits some_ fits, ?_⟩
    rw [List.flatMap_cons, utf8_fixedDigits, List.append_assoc]
    rfl
  · cases h
    exact ⟨[], .absent, rfl⟩

lemma twoDigits_digitBytes {n : Nat} (fits : n < 100) (s : Bytes) :
    twoDigits (digitBytes 2 n ++ s) = .ok (n, s) := by
  have read := number_digitBytes 2 n fits
  obtain ⟨a, b, two⟩ : ∃ a b, digitBytes 2 n = [a, b] := ⟨_, _, rfl⟩
  rw [two] at read ⊢
  change (number [a, b] >>= fun n => .ok (n, s)) = .ok (n, s)
  rw [read, ok_bind]

lemma twoDigits_eq_ok {s rest : Bytes} {n : Nat} (h : twoDigits s = .ok (n, rest)) :
    n < 100 ∧ s = digitBytes 2 n ++ rest := by
  unfold twoDigits at h
  split at h
  · rename_i a b s
    obtain ⟨m, read, h⟩ := bind_eq_ok.mp h
    cases h
    obtain ⟨bound, digits⟩ := number_eq_ok.mp read
    exact ⟨bound, congrArg (· ++ rest) digits⟩
  · cases h

lemma offsetSign_eq_ok {s rest : Bytes} {direction : Int} :
    DateAndTime.sign s = .ok (direction, rest) ↔
      ∃ c, IsSign c direction ∧ s = String.utf8EncodeChar c ++ rest := by
  have three : String.utf8EncodeChar '\u2212' = [0xE2, 0x88, 0x92] := by decide
  constructor
  · intro h
    unfold DateAndTime.sign at h
    split at h
    · cases h
    · cases h
      exact ⟨'+', .plus, rfl⟩
    · cases h
      exact ⟨'-', .minus, rfl⟩
    · cases h
      exact ⟨'\u2212', .typographic, by rw [three]; rfl⟩
    · cases h
  · rintro ⟨c, isSign, rfl⟩
    cases isSign with
    | plus => rfl
    | minus => rfl
    | typographic =>
      rw [three]
      rfl

/-- A zone that is not `Z` starts with a sign. -/
lemma offset_signed {x : UInt8} {rest : Bytes} (upper : x ≠ 90) (lower : x ≠ 122) :
    offset (x :: rest) = DateAndTime.sign (x :: rest) >>= fun signed => twoDigits signed.2 >>= fun hours =>
      expect 58 hours.2 >>= fun s => twoDigits s >>= fun minutes =>
        if 60 ≤ minutes.1 then .error .outOfRange
        else .ok (signed.1 * (hours.1 * 3600 + minutes.1 * 60), minutes.2) := by
  unfold offset
  split
  · rename_i same
    exact absurd (List.cons.inj same).1 upper
  · rename_i same
    exact absurd (List.cons.inj same).1 lower
  · rfl

lemma IsSign.head {c : Char} {direction : Int} (h : IsSign c direction) : ∃ x rest,
    String.utf8EncodeChar c = x :: rest ∧ x ≠ 90 ∧ x ≠ 122 ∧ x ≠ 46 ∧ (digitValue? x).isSome = false := by
  cases h with
  | plus => exact ⟨43, [], by decide⟩
  | minus => exact ⟨45, [], by decide⟩
  | typographic => exact ⟨0xE2, [0x88, 0x92], by decide⟩

lemma offset_of_isZone {cs : List Char} {shift : Int} (h : IsZone cs shift) (s : Bytes) :
    offset (cs.flatMap String.utf8EncodeChar ++ s) = .ok (shift, s) := by
  cases h with
  | utc known =>
    simp only [List.mem_cons, List.not_mem_nil, or_false] at known
    rcases known with rfl | rfl
    · rfl
    · rfl
  | @shifted sign direction hours minutes signed hours_lt minutes_lt =>
    obtain ⟨x, rest, bytes, upper, lower, -⟩ := signed.head
    have text : (sign :: fixedDigits 2 hours ++ ':' :: fixedDigits 2 minutes).flatMap
        String.utf8EncodeChar ++ s =
          x :: (rest ++ (digitBytes 2 hours ++ 58 :: (digitBytes 2 minutes ++ s))) := by
      simp only [List.flatMap_append, List.flatMap_cons, utf8_fixedDigits, bytes, List.append_assoc,
        List.cons_append]
      rfl
    have read : DateAndTime.sign
        (x :: (rest ++ (digitBytes 2 hours ++ 58 :: (digitBytes 2 minutes ++ s)))) =
          .ok (direction, digitBytes 2 hours ++ 58 :: (digitBytes 2 minutes ++ s)) :=
      offsetSign_eq_ok.mpr ⟨sign, signed, by rw [bytes, List.cons_append]⟩
    rw [text, offset_signed upper lower, read]
    simp only [ok_bind, twoDigits_digitBytes (show hours < 100 by omega), expect, if_true,
      twoDigits_digitBytes (show minutes < 100 by omega)]
    rw [if_neg (by omega)]

lemma offset_eq_ok {s rest : Bytes} {shift : Int} (h : offset s = .ok (shift, rest))
    (small : ¬86400 ≤ shift.natAbs) :
    ∃ cs, IsZone cs shift ∧ s = cs.flatMap String.utf8EncodeChar ++ rest := by
  unfold offset at h
  split at h
  · cases h
    exact ⟨['Z'], .utc (by simp), rfl⟩
  · cases h
    exact ⟨['z'], .utc (by simp), rfl⟩
  · simp only [bind_eq_ok] at h
    obtain ⟨⟨direction, s₁⟩, hsign, ⟨hours, s₂⟩, hhours, s₃, hcolon, ⟨minutes, s₄⟩, hminutes, h⟩ := h
    split at h
    · cases h
    rename_i minutes_lt
    cases h
    obtain ⟨c, signed, rfl⟩ := offsetSign_eq_ok.mp hsign
    obtain ⟨-, rfl⟩ := twoDigits_eq_ok hhours
    obtain rfl := expect_eq_ok hcolon
    obtain ⟨-, rfl⟩ := twoDigits_eq_ok hminutes
    have hours_lt : hours < 24 := by
      simp only at small minutes_lt
      cases signed with
      | plus => omega
      | minus => omega
      | typographic => omega
    refine ⟨_, .shifted signed hours_lt (not_le.mp minutes_lt), ?_⟩
    simp only [List.flatMap_append, List.flatMap_cons, utf8_fixedDigits, List.append_assoc,
      List.cons_append]
    rfl

lemma IsZone.natAbs_lt {cs : List Char} {shift : Int} (h : IsZone cs shift) : shift.natAbs < 86400 := by
  cases h with
  | utc known => decide
  | shifted signed hours_lt minutes_lt =>
    cases signed with
    | plus => omega
    | minus => omega
    | typographic => omega

lemma IsZone.wholeMinutes {cs : List Char} {shift : Int} (h : IsZone cs shift) : shift % 60 = 0 := by
  cases h with
  | utc known => rfl
  | shifted signed hours_lt minutes_lt =>
    cases signed with
    | plus => omega
    | minus => omega
    | typographic => omega

lemma IsZone.after {cs : List Char} {shift : Int} (h : IsZone cs shift) :
    IsAfterSecond (cs.flatMap String.utf8EncodeChar) := by
  cases h with
  | utc known =>
    simp only [List.mem_cons, List.not_mem_nil, or_false] at known
    rcases known with rfl | rfl
    · exact ⟨90, [], by decide⟩
    · exact ⟨122, [], by decide⟩
  | shifted signed hours_lt minutes_lt =>
    obtain ⟨x, rest, bytes, -, -, point, stops⟩ := signed.head
    rw [List.cons_append, List.flatMap_cons, bytes]
    exact ⟨x, _, rfl, point, stops⟩

lemma clock_eq_ok {hour minute shown nanos seconds read : Nat} :
    clock hour minute shown nanos = .ok (seconds, read) ↔ hour < 24 ∧ minute < 60 ∧ shown ≤ 60 ∧
      seconds = hour * 3600 + minute * 60 + min shown 59 ∧
      read = nanos + if shown = 60 then 10 ^ 9 else 0 := by
  have billion : second = 10 ^ 9 := rfl
  unfold clock
  by_cases leap : shown = 60
  · simp only [leap, if_true, billion]
    constructor
    · intro h
      split at h
      · rename_i inside
        cases h
        exact ⟨inside.1, inside.2.1, le_rfl, rfl, rfl⟩
      · cases h
    · rintro ⟨hour_lt, minute_lt, -, rfl, rfl⟩
      rw [if_pos ⟨hour_lt, minute_lt, by decide⟩]
      rfl
  · simp only [leap, if_false]
    constructor
    · intro h
      split at h
      · rename_i inside
        cases h
        exact ⟨inside.1, inside.2.1, inside.2.2.le, by omega, rfl⟩
      · cases h
    · rintro ⟨hour_lt, minute_lt, shown_le, rfl, rfl⟩
      rw [if_pos ⟨hour_lt, minute_lt, by omega⟩, min_eq_left (by omega)]

lemma date_of_isDayNumber {year month day : Nat} {days : Int} (fourDigits : year < 10000)
    (counted : IsDayNumber ⟨year, month, day⟩ days) (s : Bytes) :
    DateAndTime.date (digitBytes 4 year ++ 45 :: (digitBytes 2 month ++
      45 :: (digitBytes 2 day ++ s))) = .ok (⟨year, month, day⟩, s) := by
  obtain ⟨real, -⟩ := isDayNumber_iff.mp counted
  have hmonth : month ≤ 12 := (month_of_exists real).2
  have hday : day ≤ 31 := (exists?_iff.mp real).2.trans (daysInMonth_le year month)
  unfold DateAndTime.date
  simp only [take_digitBytes, drop_digitBytes, number_digitBytes 4 year (by omega),
    number_digitBytes 2 month (by omega), number_digitBytes 2 day (by omega), ok_bind,
    DateAndTime.expect, if_true, real]
  rfl

/-- A date that is followed by something. -/
lemma date_eq_ok {s rest : Bytes} {d : Date} (h : DateAndTime.date s = .ok (d, rest))
    (more : rest ≠ []) : ∃ year : Nat, year < 10000 ∧ d.year = year ∧ d.exists? = true ∧
      s = digitBytes 4 year ++ 45 :: (digitBytes 2 d.month ++ 45 :: (digitBytes 2 d.day ++ rest)) := by
  unfold DateAndTime.date at h
  simp only [bind_eq_ok] at h
  obtain ⟨year, hyear, s₁, dash, month, hmonth, s₂, dash', day, hday, h⟩ := h
  split at h
  · rename_i real
    cases h
    have dash := expect_eq_ok dash
    have dash' := expect_eq_ok dash'
    obtain ⟨-, dayText⟩ := split_number hday more
    obtain ⟨-, monthText⟩ := split_number hmonth (by rw [dash']; exact List.cons_ne_nil _ _)
    obtain ⟨year_lt, yearText⟩ := split_number hyear (by rw [dash]; exact List.cons_ne_nil _ _)
    refine ⟨year, year_lt, rfl, real, ?_⟩
    rw [← dayText, ← dash', ← monthText, ← dash, ← yearText]
  · cases h

lemma separator_eq_ok {s rest : Bytes} : separator s = .ok rest ↔
    ∃ c ∈ ['T', 't', ' '], s = String.utf8EncodeChar c ++ rest := by
  constructor
  · intro h
    unfold separator at h
    split at h
    · cases h
      exact ⟨'T', by simp, rfl⟩
    · cases h
      exact ⟨'t', by simp, rfl⟩
    · cases h
      exact ⟨' ', by simp, rfl⟩
    · cases h
  · rintro ⟨c, known, rfl⟩
    simp only [List.mem_cons, List.not_mem_nil, or_false] at known
    rcases known with rfl | rfl | rfl
    · rfl
    · rfl
    · rfl

lemma timeOfDay_eq_ok {s rest : Bytes} {seconds read : Nat}
    (h : timeOfDay s = .ok ((seconds, read), rest)) (more : rest ≠ []) :
    ∃ hour minute shown nanos cs, clock hour minute shown nanos = .ok (seconds, read) ∧
      IsFraction cs nanos ∧ s = digitBytes 2 hour ++ 58 :: (digitBytes 2 minute ++
        58 :: (digitBytes 2 shown ++ (cs.flatMap String.utf8EncodeChar ++ rest))) := by
  unfold timeOfDay at h
  simp only [bind_eq_ok] at h
  obtain ⟨hour, hhour, s₁, colon, minute, hminute, s₂, colon', shown, hshown, ⟨nanos, s₃⟩, hfraction,
    ⟨seconds, read⟩, hclock, h⟩ := h
  cases h
  obtain ⟨cs, fine, behind⟩ := fractionAt_eq_ok hfraction
  have colon := expect_eq_ok colon
  have colon' := expect_eq_ok colon'
  obtain ⟨-, shownText⟩ := split_number hshown (by simp [behind, more])
  obtain ⟨-, minuteText⟩ := split_number hminute (by rw [colon']; exact List.cons_ne_nil _ _)
  obtain ⟨-, hourText⟩ := split_number hhour (by rw [colon]; exact List.cons_ne_nil _ _)
  refine ⟨hour, minute, shown, nanos, cs, hclock, fine, ?_⟩
  rw [← behind, ← shownText, ← colon', ← minuteText, ← colon, ← hourText]

lemma timeOfDay_of_isFraction {hour minute shown nanos seconds read : Nat} {cs : List Char}
    (shows : clock hour minute shown nanos = .ok (seconds, read)) (fine : IsFraction cs nanos)
    {s : Bytes} (after : IsAfterSecond s) :
    timeOfDay (digitBytes 2 hour ++ 58 :: (digitBytes 2 minute ++
      58 :: (digitBytes 2 shown ++ (cs.flatMap String.utf8EncodeChar ++ s)))) =
        .ok ((seconds, read), s) := by
  obtain ⟨hour_lt, minute_lt, shown_le, -⟩ := clock_eq_ok.mp shows
  unfold timeOfDay
  simp only [take_digitBytes, drop_digitBytes, number_digitBytes 2 hour (by omega),
    number_digitBytes 2 minute (by omega), number_digitBytes 2 shown (by omega), ok_bind,
    DateAndTime.expect, if_true, fractionAt_of_isFraction fine after, shows]
  rfl

/-! ### The whole text -/

/-- The bytes of a timestamp. -/
def timestampBytes (year month day hour minute shown : Nat) (between : Char)
    (fraction zone : List Char) : Bytes :=
  digitBytes 4 year ++ 45 :: (digitBytes 2 month ++ 45 :: (digitBytes 2 day ++
    (String.utf8EncodeChar between ++ (digitBytes 2 hour ++ 58 :: (digitBytes 2 minute ++
      58 :: (digitBytes 2 shown ++ (fraction.flatMap String.utf8EncodeChar ++
        zone.flatMap String.utf8EncodeChar)))))))

lemma ofText_timestamp (year month day hour minute shown : Nat) (between : Char)
    (fraction zone : List Char) : Bytes.ofText (String.ofList
      (fixedDigits 4 year ++ '-' :: fixedDigits 2 month ++ '-' :: fixedDigits 2 day ++
        between :: fixedDigits 2 hour ++ ':' :: fixedDigits 2 minute ++ ':' :: fixedDigits 2 shown ++
          fraction ++ zone)) =
      timestampBytes year month day hour minute shown between fraction zone := by
  have dash : String.utf8EncodeChar '-' = [45] := rfl
  have colon : String.utf8EncodeChar ':' = [58] := rfl
  rw [ofText_ofList]
  simp only [List.flatMap_append, List.flatMap_cons, utf8_fixedDigits, List.append_assoc, dash, colon,
    List.cons_append, List.nil_append, timestampBytes]

lemma of?_self (t : Instant) : Instant.of? t.seconds t.nanos = some t := by
  unfold Instant.of?
  rw [dif_pos ⟨⟨t.first_le, t.le_last⟩, t.nanos_lt⟩]

lemma of?_eq_some {seconds : Int} {nanos : Nat} {t : Instant} (h : Instant.of? seconds nanos = some t) :
    t.seconds = seconds ∧ t.nanos = nanos := by
  unfold Instant.of? at h
  split at h
  · cases h
    exact ⟨rfl, rfl⟩
  · cases h

lemma parse_of_isTimestamp {text : String} {t : Instant} (h : IsTimestamp text t) :
    parse text = .ok t := by
  cases h with
  | @mk year month day hour minute shown nanos days shift between fraction zone _ fourDigits counted
      known hour_lt minute_lt shown_le fine zoned seconds read =>
  have shows : clock hour minute shown nanos =
      .ok (hour * 3600 + minute * 60 + min shown 59, t.nanos) :=
    clock_eq_ok.mpr ⟨hour_lt, minute_lt, shown_le, rfl, read⟩
  have parted (s : Bytes) : separator (String.utf8EncodeChar between ++ s) = .ok s :=
    separator_eq_ok.mpr ⟨between, known, rfl⟩
  have shifted := offset_of_isZone zoned []
  rw [List.append_nil] at shifted
  have long : 19 ≤ (timestampBytes year month day hour minute shown between fraction zone).length := by
    have one := List.length_pos_iff.mpr (String.utf8EncodeChar_ne_nil (c := between))
    simp only [timestampBytes, List.length_append, List.length_cons, length_digitBytes]
    omega
  unfold parse
  rw [ofText_timestamp, if_neg (by omega), timestampBytes, date_of_isDayNumber fourDigits counted, ok_bind]
  simp only [parted, ok_bind, timeOfDay_of_isFraction shows fine zoned.after, shifted, List.isEmpty_nil,
    Bool.not_true, Bool.false_eq_true, if_false]
  rw [if_neg (not_le.mpr zoned.natAbs_lt)]
  have same : Date.toDays ⟨year, month, day⟩ * 86400 +
      ((hour * 3600 + minute * 60 + min shown 59 : Nat) : Int) - shift = t.seconds := by
    rw [seconds, ← (isDayNumber_iff.mp counted).2]
    push_cast
    rfl
  rw [same, of?_self]

lemma isTimestamp_of_parse {text : String} {t : Instant} (h : parse text = .ok t) :
    IsTimestamp text t := by
  unfold parse at h
  simp only at h
  split at h
  · cases h
  simp only [bind_eq_ok] at h
  obtain ⟨⟨⟨year, month, day⟩, s₁⟩, dated, s₂, parted, ⟨⟨seconds, nanos⟩, s₃⟩, timed, ⟨shift, s₄⟩, shifted,
    h⟩ := h
  split at h
  · cases h
  rename_i ended
  by_cases big : 86400 ≤ shift.natAbs
  · rw [if_pos big] at h
    cases h
  rw [if_neg big] at h
  cases found : Instant.of? (Date.toDays ⟨year, month, day⟩ * 86400 + seconds - shift) nanos with
  | none =>
    rw [found] at h
    cases h
  | some t' =>
    rw [found] at h
    cases h
    -- from the end to the front, since a number is known to be whole when something follows it
    obtain ⟨zone, zoned, rfl⟩ := offset_eq_ok shifted big
    obtain rfl : s₄ = [] := by simpa using ended
    rw [List.append_nil] at timed
    obtain ⟨x, rest, something, -⟩ := zoned.after
    obtain ⟨hour, minute, shown, fractionNanos, fraction, shows, fine, rfl⟩ :=
      timeOfDay_eq_ok timed (by rw [something]; exact List.cons_ne_nil _ _)
    obtain ⟨between, known, rfl⟩ := separator_eq_ok.mp parted
    obtain ⟨year, year_lt, rfl, real, bytes⟩ := date_eq_ok dated (by simp)
    obtain ⟨hour_lt, minute_lt, shown_le, rfl, rfl⟩ := clock_eq_ok.mp shows
    have whole := Bytes.ofText_injective (bytes.trans
      (ofText_timestamp year month day hour minute shown between fraction zone).symm)
    obtain ⟨seconds, nanos⟩ := of?_eq_some found
    rw [whole]
    refine .mk year_lt (isDayNumber_iff.mpr ⟨real, rfl⟩) known hour_lt minute_lt shown_le fine zoned ?_ nanos
    rw [seconds]
    push_cast
    rfl

/-- Reading accepts the timestamps and gives the instants that they denote. -/
lemma parse_eq_ok {text : String} {t : Instant} : parse text = .ok t ↔ IsTimestamp text t :=
  ⟨isTimestamp_of_parse, parse_of_isTimestamp⟩

end BootstrapVoucher.Proofs
