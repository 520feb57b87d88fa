import BootstrapVoucher.Proofs.Document

/-!
# Canonical texts tell claims apart

Two claims with one document show the same claims, also where the document cannot be read back because
of its years; they are the same claims unless one of them has a leap second within a minute, which is
written like the next second. The years differ in width and may have a sign, so the parts of a
timestamp are told apart by the letter in its middle and, before it, from the end; what follows the
letter is read back in every year.
-/

namespace BootstrapVoucher.Proofs

open Time Json

/-! ### Digits -/

lemma isDigit_of_mem_fixedDigits {width n : Nat} {c : Char} (h : c ∈ Text.fixedDigits width n) :
    c.isDigit = true := by
  induction width generalizing n with
  | zero => simp [Text.fixedDigits] at h
  | succ width ih =>
    rw [Text.fixedDigits, List.mem_append, List.mem_singleton] at h
    rcases h with h | rfl
    · exact ih h
    · rw [Nat.isDigit_digitChar, decide_eq_true_eq]
      exact Nat.mod_lt n (by decide)

lemma ofDigitChars_fixedDigits {width n : Nat} (h : n < 10 ^ width) :
    Nat.ofDigitChars 10 (Text.fixedDigits width n) 0 = n := by
  induction width generalizing n with
  | zero =>
    have hzero : n = 0 := by simpa using h
    subst hzero
    rfl
  | succ width ih =>
    have hlt : n / 10 < 10 ^ width := by
      rw [Nat.pow_succ] at h
      omega
    have hdigit : (Nat.digitChar (n % 10)).toNat = 48 + n % 10 :=
      Nat.toNat_digitChar_of_lt_ten (Nat.mod_lt n (by decide))
    rw [Text.fixedDigits, Nat.ofDigitChars_append, ih hlt, Nat.ofDigitChars_cons, hdigit]
    change 10 * (n / 10) + (48 + n % 10 - 48) = n
    omega

lemma ofDigitChars_paddedDigits (width n : Nat) :
    Nat.ofDigitChars 10 (Text.paddedDigits width n) 0 = n := by
  rw [Text.paddedDigits, Nat.ofDigitChars_append, Nat.ofDigitChars_replicate_zero, Nat.mul_zero]
  exact Nat.ofDigitChars_toDigits (by decide) (by decide)

lemma isDigit_of_mem_paddedDigits {width n : Nat} {c : Char} (h : c ∈ Text.paddedDigits width n) :
    c.isDigit = true := by
  rw [Text.paddedDigits, List.mem_append, List.mem_replicate] at h
  rcases h with ⟨-, rfl⟩ | h
  · rfl
  · exact Nat.isDigit_of_mem_toDigits (by decide) (by decide) h

lemma fixedDigits_injOn {width m n : Nat} (hm : m < 10 ^ width) (hn : n < 10 ^ width)
    (h : Text.fixedDigits width m = Text.fixedDigits width n) : m = n := by
  rw [← ofDigitChars_fixedDigits hm, ← ofDigitChars_fixedDigits hn, h]

/-! ### Timestamps -/

/-- A sign is no digit, so the years with a sign are told from those without. -/
lemma yearText_injective : Function.Injective yearText := by
  intro a b h
  have unsigned : ∀ {y : Int} {c : Char} {digits : List Char}, c.isDigit = false →
      Text.fixedDigits 4 y.toNat ≠ c :: digits := by
    intro y c digits hc hsame
    have hmem : c ∈ Text.fixedDigits 4 y.toNat := hsame ▸ List.mem_cons_self
    rw [isDigit_of_mem_fixedDigits hmem] at hc
    cases hc
  have sign : ∀ y : Int, (if y < 0 then '-' else '+').isDigit = false := by
    intro y
    split <;> rfl
  have minus : ∀ y : Int, (if y < 0 then '-' else '+') = '-' ↔ y < 0 := by
    intro y
    split <;> simp_all
  unfold yearText at h
  by_cases ha : 0 ≤ a ∧ a ≤ 9999
  · rw [if_pos ha] at h
    by_cases hb : 0 ≤ b ∧ b ≤ 9999
    · rw [if_pos hb] at h
      have hsame := fixedDigits_injOn (by omega) (by omega) h
      omega
    · rw [if_neg hb] at h
      exact absurd h (unsigned (sign b))
  · rw [if_neg ha] at h
    by_cases hb : 0 ≤ b ∧ b ≤ 9999
    · rw [if_pos hb] at h
      exact absurd h.symm (unsigned (sign a))
    · rw [if_neg hb, List.cons.injEq] at h
      have hsize : a.natAbs = b.natAbs := by
        rw [← ofDigitChars_paddedDigits 4 a.natAbs, h.2, ofDigitChars_paddedDigits]
      have hsign : a < 0 ↔ b < 0 := by
        rw [← minus a, h.1, minus b]
      omega

/-- The date of a day is determined by its text; month and day take up the last six characters. -/
lemma dateText_injective : Function.Injective fun days : Int => (Date.ofDays days).text := by
  intro a b h
  obtain ⟨-, hexists, hdays, -, hmonth⟩ := ofDays_spec a
  obtain ⟨-, hexists', hdays', -, hmonth'⟩ := ofDays_spec b
  have hday : ∀ {d : Date}, d.exists? = true → d.day < 10 ^ 2 := by
    intro d hd
    have hle := daysInMonth_le d.year d.month
    simp only [Date.exists?, Bool.and_eq_true, decide_eq_true_eq] at hd
    omega
  obtain ⟨hfront, hdayText⟩ := List.append_inj' h (by simp [Text.length_fixedDigits])
  obtain ⟨hyearText, hmonthText⟩ := List.append_inj' hfront (by simp [Text.length_fixedDigits])
  have hyear := yearText_injective hyearText
  have hmonths := fixedDigits_injOn (by omega) (by omega) (List.cons.inj hmonthText).2
  have hdaysOfMonth := fixedDigits_injOn (hday hexists) (hday hexists') (List.cons.inj hdayText).2
  have hdate : Date.ofDays a = Date.ofDays b := by
    cases hA : Date.ofDays a
    cases hB : Date.ofDays b
    simp_all
  rw [← hdays, ← hdays', hdate]

lemma separator_notMem_fixedDigits {width n : Nat} : 'T' ∉ Text.fixedDigits width n := by
  intro h
  cases isDigit_of_mem_fixedDigits h

lemma separator_notMem_dateText (d : Date) : 'T' ∉ d.text := by
  have padded : ∀ {width n : Nat}, 'T' ∉ Text.paddedDigits width n := by
    intro width n h
    cases isDigit_of_mem_paddedDigits h
  have hyear : 'T' ∉ yearText d.year := by
    unfold yearText
    split
    · exact separator_notMem_fixedDigits
    · intro h
      rcases List.mem_cons.mp h with h | h
      · split at h <;> cases h
      · exact padded h
  simp [Date.text, hyear, separator_notMem_fixedDigits]

lemma IsFraction.separator_notMem {cs : List Char} {nanos : Nat} (h : IsFraction cs nanos) :
    'T' ∉ cs := by
  cases h with
  | absent => simp
  | digits => simp [separator_notMem_fixedDigits]

lemma separator_notMem_timeText (t : Instant) : 'T' ∉ t.timeText := by
  have hfraction : 'T' ∉ fraction (t.nanos % second) :=
    (isFraction_nanos t).separator_notMem
  simp [Instant.timeText, hfraction, separator_notMem_fixedDigits]

/-- The time of day is read back from its text, the fraction and the second 60 included. -/
lemma timeText_inj {t u : Instant} (ht : t.IsShown) (hu : u.IsShown) (h : t.timeText = u.timeText) :
    t.secondOfDay = u.secondOfDay ∧ t.nanos = u.nanos := by
  have hread := timeOfDay_timeText ht []
  rw [h, timeOfDay_timeText hu []] at hread
  simp only [Except.ok.injEq, Prod.mk.injEq, and_true] at hread
  exact ⟨hread.1.symm, hread.2.symm⟩

lemma format_inj {t u : Instant} (ht : t.IsShown) (hu : u.IsShown)
    (h : DateAndTime.format t = DateAndTime.format u) : t = u := by
  have hchars := congrArg String.toList h
  simp only [DateAndTime.format, String.toList_ofList, List.append_assoc, List.cons_append] at hchars
  have hrest : 'T' ∉ t.timeText ++ ['Z'] := by
    simp [separator_notMem_timeText t]
  obtain ⟨hdate, -, htime⟩ :=
    (List.append_cons_inj_of_notMem (separator_notMem_dateText t.date) hrest).mp hchars
  have hday : t.day = u.day := dateText_injective hdate
  obtain ⟨hsecond, hnanos⟩ := timeText_inj ht hu (List.append_inj_left' htime rfl)
  have hseconds : t.seconds = u.seconds := by
    rw [← day_add_secondOfDay t, ← day_add_secondOfDay u, hday, hsecond]
  have hsame := of?_self t
  rw [hseconds, hnanos, of?_self u] at hsame
  exact (Option.some.inj hsame).symm

/-- Instants with one text are those that show one instant. -/
theorem format_eq_iff {t u : Instant} : DateAndTime.format t = DateAndTime.format u ↔ t.shown = u.shown := by
  rw [← format_shown t, ← format_shown u]
  exact ⟨format_inj (Instant.isShown_shown t) (Instant.isShown_shown u), congrArg DateAndTime.format⟩

/-! ### Documents -/

lemma assertionText_injective :
    Function.Injective fun a : Option Assertion => (a.map Assertion.text).getD "" := by
  intro a b h
  have hread := congrArg (fun text => Document.readAssertion (.string text)) h
  simp only [readAssertion_text] at hread
  exact Except.ok.inj hread

lemma value_eq_iff {a b : Claims} : Document.value a = Document.value b ↔ a.shown = b.shown := by
  constructor
  · intro h
    simp only [Document.value, Document.claimsValue, Value.object.injEq, List.cons.injEq, Prod.mk.injEq,
      Value.string.injEq, Value.bool.injEq, true_and, and_true] at h
    obtain ⟨hcreated, hexpires, hserial, hassertion, hbody, hchecks⟩ := h
    unfold Claims.shown
    rw [format_eq_iff.mp hcreated, format_eq_iff.mp hexpires, hserial, assertionText_injective hassertion,
      hbody, hchecks]
  · intro h
    have same : ∀ c : Claims, Document.value c.shown = Document.value c := by
      intro c
      simp only [Document.value, Document.claimsValue, Claims.shown, format_shown]
    rw [← same a, h, same b]

/-- Reading a document gives its value back whatever the years are, so the bytes determine it. -/
lemma compact_eq_iff {a b : Claims} :
    (Document.value a).compact = (Document.value b).compact ↔ a.shown = b.shown := by
  rw [← value_eq_iff]
  refine ⟨fun h => ?_, congrArg Value.compact⟩
  have hparse := congrArg Value.parse h
  simpa only [parse_compact, Except.ok.injEq] using hparse

/-- Two claims are written alike just if their texts show the same claims, to the nanosecond and to the
last character. They are then the same claims, unless one of them has a leap second within a minute. -/
theorem encode_determines_claims {a b : Claims} {x y : Bytes} (ha : a.encode = .ok x)
    (hb : b.encode = .ok y) :
    (x = y ↔ a.shown = b.shown) ∧ (a.HasShownTimes → b.HasShownTimes → (x = y ↔ a = b)) := by
  obtain ⟨-, rfl⟩ := encode_eq_ok.mp ha
  obtain ⟨-, rfl⟩ := encode_eq_ok.mp hb
  refine ⟨compact_eq_iff, fun shownA shownB => ?_⟩
  rw [compact_eq_iff, Claims.shown_eq_self_iff.mpr shownA, Claims.shown_eq_self_iff.mpr shownB]

/-- A quarter of a second into the year 2017, a second of leap later than `leapSecond2016`. -/
def january2017 : Instant := instantOf 1483228800 250000000

/-- A leap second and the second after it, in documents that start before the year 0; and a leap second
within a minute, which has the document of the second after it. -/
theorem encode_determines_leapSecond :
    (∃ x y, (claimsOf beforeYear0 leapSecond2016).encode = .ok x ∧
      (claimsOf beforeYear0 january2017).encode = .ok y ∧ x ≠ y) ∧
    ∃ x y, halfMinuteClaims.encode = .ok x ∧
      { halfMinuteClaims with createdOn := halfMinuteClaims.expiresOn }.encode = .ok y ∧ x = y := by
  have leap : (claimsOf beforeYear0 leapSecond2016).encode =
      .ok (Document.value (claimsOf beforeYear0 leapSecond2016)).compact :=
    encode_eq_ok.mpr ⟨rfl, rfl⟩
  have next : (claimsOf beforeYear0 january2017).encode =
      .ok (Document.value (claimsOf beforeYear0 january2017)).compact :=
    encode_eq_ok.mpr ⟨rfl, rfl⟩
  have within : halfMinuteClaims.encode = .ok (Document.value halfMinuteClaims).compact :=
    encode_eq_ok.mpr ⟨rfl, rfl⟩
  have after : { halfMinuteClaims with createdOn := halfMinuteClaims.expiresOn }.encode =
      .ok (Document.value { halfMinuteClaims with createdOn := halfMinuteClaims.expiresOn }).compact :=
    encode_eq_ok.mpr ⟨rfl, rfl⟩
  refine ⟨⟨_, _, leap, next, fun same => ?_⟩,
    _, _, within, after, (encode_determines_claims within after).1.mpr (by decide)⟩
  have claims := ((encode_determines_claims leap next).2 (by decide) (by decide)).mp same
  revert claims
  decide

/-- Claims that differ in the second they start in have one document, and so one signature. -/
theorem halfMinuteLeap_shares_a_document :
    ∃ a b : Claims, a ≠ b ∧ ∃ x, a.encode = .ok x ∧ b.encode = .ok x := by
  refine ⟨halfMinuteClaims, halfMinuteClaims.shown, by decide, _, encode_eq_ok.mpr ⟨rfl, rfl⟩,
    encode_eq_ok.mpr ⟨rfl, ?_⟩⟩
  exact compact_eq_iff.mpr (by decide)

end BootstrapVoucher.Proofs
