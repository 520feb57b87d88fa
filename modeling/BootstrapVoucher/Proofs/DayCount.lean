import BootstrapVoucher.Proofs.Calendar

/-!
# Counting days

The days of the calendar follow one another: after the last day of a month comes the first day of the
next one. Whoever counts them, forwards and backwards from 1970-01-01, gets to every date of the
calendar, and to the number that the closed formula gives for it.
-/

namespace BootstrapVoucher.Proofs

open Time

/-- The day that follows a date. -/
def dayAfter (d : Date) : Date :=
  if d.day < daysInMonth d.year d.month then ⟨d.year, d.month, d.day + 1⟩
  else if d.month < 12 then ⟨d.year, d.month + 1, 1⟩
  else ⟨d.year + 1, 1, 1⟩

/-- The number of a day, counted one by one from 1970-01-01. -/
inductive IsDayNumber : Date → Int → Prop
  | epoch : IsDayNumber ⟨1970, 1, 1⟩ 0
  | next {d : Date} {n : Int} (h : IsDayNumber d n) : IsDayNumber (dayAfter d) (n + 1)
  | previous {d : Date} {n : Int} (real : d.exists? = true) (h : IsDayNumber (dayAfter d) (n + 1)) :
    IsDayNumber d n

/-! ### Months -/

lemma exists?_iff {d : Date} :
    d.exists? = true ↔ 1 ≤ d.day ∧ d.day ≤ daysInMonth d.year d.month := by
  simp [Date.exists?]

lemma daysInMonth_succ (year : Int) (i : Nat) :
    daysInMonth year (i + 1) = (monthLengths (isLeapYear year))[i]?.getD 0 := rfl

lemma daysInMonth_pos {year : Int} {month : Nat} (first : 1 ≤ month) (last : month ≤ 12) :
    1 ≤ daysInMonth year month := by
  have all : ∀ leap, ∀ i < 12, 1 ≤ (monthLengths leap)[i]?.getD 0 := by decide
  obtain ⟨i, rfl⟩ := Nat.exists_eq_add_of_le' first
  exact all _ i (by omega)

lemma daysInMonth_le (year : Int) (month : Nat) : daysInMonth year month ≤ 31 := by
  have all : ∀ leap, ∀ n ∈ monthLengths leap, n ≤ 31 := by
    decide
  unfold daysInMonth
  split
  · exact Nat.zero_le _
  · cases h : (monthLengths (isLeapYear year))[month - 1]? with
    | none => exact Nat.zero_le _
    | some n => exact all _ n (List.mem_of_getElem? h)

/-- Only the months from 1 to 12 have days. -/
lemma month_of_exists {d : Date} (real : d.exists? = true) : 1 ≤ d.month ∧ d.month ≤ 12 := by
  obtain ⟨first, last⟩ := exists?_iff.mp real
  by_contra outside
  have none : daysInMonth d.year d.month = 0 := by
    by_cases zero : d.month = 0
    · rw [zero]
      rfl
    · obtain ⟨i, hi⟩ := Nat.exists_eq_succ_of_ne_zero zero
      have beyond : (monthLengths (isLeapYear d.year))[i]? = none :=
        List.getElem?_eq_none (show 12 ≤ i by omega)
      rw [hi, Nat.succ_eq_add_one, daysInMonth_succ, beyond]
      rfl
  omega

lemma daysBefore_succ (year : Int) (i : Nat) :
    Date.daysBefore year (i + 1 + 1) = Date.daysBefore year (i + 1) + daysInMonth year (i + 1) := by
  unfold Date.daysBefore
  rw [← List.sum_eq_foldl_nat, ← List.sum_eq_foldl_nat, daysInMonth_succ, Nat.add_sub_cancel,
    Nat.add_sub_cancel, List.take_add_one, List.sum_append]
  cases (monthLengths (isLeapYear year))[i]? with
  | none => rfl
  | some length => simp

lemma daysBefore_december (year : Int) :
    Date.daysBefore year 12 + daysInMonth year 12 = if isLeapYear year then 366 else 365 := by
  unfold Date.daysBefore
  rw [daysInMonth_succ]
  cases isLeapYear year with
  | false => rfl
  | true => rfl

/-! ### One day after the other -/

section DayAfter

variable {d : Date} (real : d.exists? = true)

include real

lemma exists_dayAfter : (dayAfter d).exists? = true := by
  obtain ⟨first, last⟩ := exists?_iff.mp real
  obtain ⟨low, high⟩ := month_of_exists real
  rw [exists?_iff]
  unfold dayAfter
  split_ifs with inside december
  · exact ⟨by simp, inside⟩
  · exact ⟨le_rfl, daysInMonth_pos (by simp) december⟩
  · exact ⟨le_rfl, daysInMonth_pos le_rfl (show 1 ≤ 12 by decide)⟩

/-- The closed formula counts one by one. -/
lemma toDays_dayAfter : (dayAfter d).toDays = d.toDays + 1 := by
  obtain ⟨first, last⟩ := exists?_iff.mp real
  obtain ⟨low, high⟩ := month_of_exists real
  obtain ⟨i, hi⟩ := Nat.exists_eq_add_of_le' low
  unfold dayAfter Date.toDays
  split_ifs with inside december
  · push_cast
    omega
  · have before := daysBefore_succ d.year i
    rw [← hi] at before
    simp only [before]
    push_cast
    omega
  · have start := yearStart_succ d.year
    have before := daysBefore_december d.year
    have whole : d.month = 12 := by omega
    rw [whole] at inside last ⊢
    have january : Date.daysBefore (d.year + 1) 1 = 0 := rfl
    simp only [start, january]
    cases leap : isLeapYear d.year with
    | false =>
      simp only [leap, Bool.false_eq_true, if_false] at before ⊢
      omega
    | true =>
      simp only [leap, if_true] at before ⊢
      omega

end DayAfter

/-! ### Dates and numbers -/

/-- The day of the year that lies some days behind whole months is in the month after these. -/
lemma monthAndDay_of_sum (month : Nat) (lengths : List Nat) (i rest : Nat)
    (h : rest < lengths[i]?.getD 0) :
    Date.monthAndDay month lengths ((lengths.take i).sum + rest) = (month + i, rest + 1) := by
  induction lengths generalizing month i with
  | nil => simp at h
  | cons length lengths ih =>
    cases i with
    | zero =>
      have within : rest < length := by simpa using h
      rw [Date.monthAndDay, List.take_zero, List.sum_nil, Nat.zero_add, if_pos within]
      rfl
    | succ i =>
      have later := ih (month + 1) i (by simpa using h)
      rw [List.take_succ_cons, List.sum_cons, Date.monthAndDay, if_neg (by omega),
        show length + (lengths.take i).sum + rest - length = (lengths.take i).sum + rest by omega, later]
      simp only [Prod.mk.injEq, and_true]
      omega

lemma yearOfDays_eq {days year : Int} (low : yearStart year ≤ days) (high : days < yearStart (year + 1)) :
    Date.yearOfDays days = year := by
  obtain ⟨low', high'⟩ := yearStart_yearOfDays days
  by_contra differ
  rcases lt_or_gt_of_ne differ with earlier | later
  · have := yearStart_mono (show Date.yearOfDays days + 1 ≤ year by omega)
    omega
  · have := yearStart_mono (show year + 1 ≤ Date.yearOfDays days by omega)
    omega

/-- A date of the calendar is the date of its number. -/
lemma ofDays_toDays {d : Date} (real : d.exists? = true) : Date.ofDays d.toDays = d := by
  obtain ⟨first, last⟩ := exists?_iff.mp real
  obtain ⟨low, -⟩ := month_of_exists real
  obtain ⟨i, hi⟩ := Nat.exists_eq_add_of_le' low
  obtain ⟨begins, ends⟩ := toDays_lt real
  have year := yearOfDays_eq begins ends
  rw [hi, daysInMonth_succ] at last
  have rest : (d.toDays - yearStart d.year).toNat =
      ((monthLengths (isLeapYear d.year)).take i).sum + (d.day - 1) := by
    unfold Date.toDays Date.daysBefore
    rw [← List.sum_eq_foldl_nat, hi, Nat.add_sub_cancel]
    omega
  have split := monthAndDay_of_sum 1 (monthLengths (isLeapYear d.year)) i (d.day - 1) (by omega)
  unfold Date.ofDays
  simp only [year, rest, split]
  obtain ⟨y, m, day⟩ := d
  simp only at hi first
  simp only [Date.mk.injEq, true_and]
  omega

lemma toDays_injective {d d' : Date} (real : d.exists? = true) (real' : d'.exists? = true)
    (same : d.toDays = d'.toDays) : d = d' := by
  rw [← ofDays_toDays real, ← ofDays_toDays real', same]

/-- The date of each number is reached by counting. -/
lemma isDayNumber_ofDays (n : Int) : IsDayNumber (Date.ofDays n) n := by
  have step (n : Int) : dayAfter (Date.ofDays n) = Date.ofDays (n + 1) := by
    obtain ⟨-, real, days, -⟩ := ofDays_spec n
    obtain ⟨-, real', days', -⟩ := ofDays_spec (n + 1)
    apply toDays_injective (exists_dayAfter real) real'
    rw [toDays_dayAfter real, days, days']
  induction n using Int.induction_on with
  | zero => exact .epoch
  | succ n ih =>
    have next := ih.next
    rwa [step] at next
  | pred n ih =>
    apply IsDayNumber.previous (ofDays_spec _).2.1
    rw [step, Int.sub_add_cancel]
    exact ih

/-- The closed formula gives the number of every date of the calendar, and nothing else has one. -/
lemma isDayNumber_iff {d : Date} {n : Int} : IsDayNumber d n ↔ d.exists? = true ∧ d.toDays = n := by
  constructor
  · intro h
    induction h with
    | epoch => decide
    | next _ ih =>
      obtain ⟨real, rfl⟩ := ih
      exact ⟨exists_dayAfter real, toDays_dayAfter real⟩
    | previous real _ ih =>
      have counted := toDays_dayAfter real
      exact ⟨real, by omega⟩
  · rintro ⟨real, rfl⟩
    have counted := isDayNumber_ofDays d.toDays
    rwa [ofDays_toDays real] at counted

end BootstrapVoucher.Proofs
