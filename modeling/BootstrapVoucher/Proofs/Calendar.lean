import BootstrapVoucher.Proofs.Outcome
import BootstrapVoucher.Time.Calendar

/-!
# Days and dates

Every day number has a date of the calendar, and counting the days up to that date gives the day
number back. The year is bracketed by the first days of two years; the month and the day of the
month are found by taking whole months off the day of the year.
-/

namespace BootstrapVoucher.Proofs

open Time

lemma sum_monthLengths (leap : Bool) : (monthLengths leap).sum = if leap then 366 else 365 := by
  cases leap <;> rfl

/-- A day of the year falls into one of the months, after the days of the whole months before. -/
lemma monthAndDay_spec (month : Nat) (lengths : List Nat) (rest : Nat) (h : rest < lengths.sum) :
    ∃ i day, Date.monthAndDay month lengths rest = (month + i, day + 1) ∧ i < lengths.length ∧
      day < (lengths[i]?).getD 0 ∧ (lengths.take i).sum + day = rest := by
  induction lengths generalizing month rest with
  | nil => simp at h
  | cons length lengths ih =>
    rw [Date.monthAndDay]
    by_cases hlt : rest < length
    · rw [if_pos hlt]
      exact ⟨0, rest, rfl, by simp, by simpa using hlt, by simp⟩
    · rw [if_neg hlt]
      rw [List.sum_cons] at h
      obtain ⟨i, day, found, hi, hday, hsum⟩ := ih (month + 1) (rest - length) (by omega)
      refine ⟨i + 1, day, ?_, by simpa using hi, by simpa using hday, ?_⟩
      · rw [found, Nat.add_assoc, Nat.add_comm 1 i]
      · rw [List.take_succ_cons, List.sum_cons]
        omega

/-- The days of a year are numbered from 0 within the year. -/
lemma dayOfYear_lt (days : Int) :
    yearStart (Date.yearOfDays days) ≤ days ∧
      (days - yearStart (Date.yearOfDays days)).toNat <
        (monthLengths (isLeapYear (Date.yearOfDays days))).sum := by
  obtain ⟨low, high⟩ := yearStart_yearOfDays days
  rw [yearStart_succ] at high
  rw [sum_monthLengths]
  refine ⟨low, ?_⟩
  split at high <;> rename_i leap <;> simp only [leap] <;> simp <;> omega

/-- The date of a day is a date of the calendar, and that day is the one it denotes. -/
theorem ofDays_spec (days : Int) :
    (Date.ofDays days).year = Date.yearOfDays days ∧ (Date.ofDays days).exists? = true ∧
      (Date.ofDays days).toDays = days ∧ 1 ≤ (Date.ofDays days).month ∧
      (Date.ofDays days).month ≤ 12 := by
  obtain ⟨low, hlt⟩ := dayOfYear_lt days
  obtain ⟨i, day, found, hi, hday, hsum⟩ := monthAndDay_spec 1 _ _ hlt
  have hdate : Date.ofDays days = ⟨Date.yearOfDays days, 1 + i, day + 1⟩ := by
    simp only [Date.ofDays, found]
  have hlength : (monthLengths (isLeapYear (Date.yearOfDays days))).length = 12 := rfl
  have hindex : 1 + i - 1 = i := by omega
  rw [hlength] at hi
  rw [hdate]
  refine ⟨rfl, ?_, ?_, by simp, by simp only; omega⟩
  · simp only [Date.exists?, daysInMonth, hindex]
    simp
    omega
  · simp only [Date.toDays, Date.daysBefore, hindex, ← List.sum_eq_foldl_nat]
    omega

/-- A month and the months before it are a part of the year. -/
lemma sum_take_le (lengths : List Nat) (i : Nat) :
    (lengths.take i).sum + (lengths[i]?).getD 0 ≤ lengths.sum := by
  induction lengths generalizing i with
  | nil => simp
  | cons length lengths ih =>
    cases i with
    | zero => simp
    | succ i =>
      have h := ih i
      simp only [List.take_succ_cons, List.sum_cons, List.getElem?_cons_succ]
      omega

lemma yearStart_mono : Monotone yearStart := by
  refine monotone_int_of_le_succ fun year => ?_
  rw [yearStart_succ]
  split <;> omega

/-- The days of a year lie between its first day and the first day of the next. -/
lemma toDays_lt {d : Date} (hd : d.exists? = true) :
    yearStart d.year ≤ d.toDays ∧ d.toDays < yearStart (d.year + 1) := by
  simp only [Date.exists?, Bool.and_eq_true, decide_eq_true_eq] at hd
  have hpart := sum_take_le (monthLengths (isLeapYear d.year)) (d.month - 1)
  have hmonth : daysInMonth d.year d.month ≤
      ((monthLengths (isLeapYear d.year))[d.month - 1]?).getD 0 := by
    unfold daysInMonth
    split
    · exact Nat.zero_le _
    · exact Nat.le_refl _
  have hsum : ((monthLengths (isLeapYear d.year)).sum : Int) = if isLeapYear d.year then 366 else 365 := by
    rw [sum_monthLengths]
    split <;> rfl
  rw [yearStart_succ, ← hsum]
  unfold Date.toDays Date.daysBefore
  rw [← List.sum_eq_foldl_nat]
  omega

end BootstrapVoucher.Proofs
