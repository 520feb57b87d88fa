import BootstrapVoucher.Proofs.DateAndTime

/-!
# Instants and spans on the time line

Apart from leap seconds, an instant is a number of nanoseconds: later instants have greater numbers,
and adding a span and taking the span between two instants are the sum and the difference of these
numbers. A leap second shares its numbers with the second that follows it, so there the order of
instants and the sign of the span between them are different things. They disagree only at midnight,
because only there the span leaves the leap second out.
-/

namespace BootstrapVoucher.Proofs

open Time

/-- The nanoseconds from 1970-01-01 on; a leap second is counted like the second after it. -/
def place (t : Instant) : Int := t.seconds * second + t.nanos

/-- The number of a nanosecond in the years -262143 to 262142. -/
def IsOnTimeLine (n : Int) : Prop :=
  yearStart (-262143) * 86400 * second ≤ n ∧ n < yearStart 262143 * 86400 * second

/-- At most 2 ^ 63 - 1 milliseconds, in either direction. -/
def IsBounded (v : Span) : Prop := v.nanos.natAbs ≤ Span.maxMillis * 1000000

/-- A number that a signed word of so many bits holds. -/
def FitsWord (bits : Nat) (n : Int) : Prop := -2 ^ (bits - 1) ≤ n ∧ n < 2 ^ (bits - 1)

/-! ### The order of instants -/

lemma instant_lt {a b : Instant} :
    a < b ↔ a.seconds < b.seconds ∨ a.seconds = b.seconds ∧ a.nanos < b.nanos := Iff.rfl

lemma instant_le {a b : Instant} :
    a ≤ b ↔ a.seconds < b.seconds ∨ a.seconds = b.seconds ∧ a.nanos ≤ b.nanos := Iff.rfl

lemma instant_eq {a b : Instant} : a = b ↔ a.seconds = b.seconds ∧ a.nanos = b.nanos := by
  constructor
  · rintro rfl
    exact ⟨rfl, rfl⟩
  · intro h
    cases a
    cases b
    simp_all

/-- Instants are ordered one after the other, leap seconds included. -/
instance : LinearOrder Instant where
  le_refl a := by
    rw [instant_le]
    omega
  le_trans a b c := by
    simp only [instant_le]
    omega
  lt_iff_le_not_ge a b := by
    simp only [instant_le, instant_lt]
    omega
  le_antisymm a b := by
    simp only [instant_le, instant_eq]
    omega
  le_total a b := by
    simp only [instant_le]
    omega
  toDecidableLE := inferInstance
  toDecidableLT := inferInstance
  toDecidableEq := inferInstance

/-! ### Instants that are no leap seconds -/

lemma isLeap_eq_false {t : Instant} : t.isLeap = false ↔ t.nanos < 1000000000 := by
  simp [Instant.isLeap]

lemma nanos_lt_second {t : Instant} (h : t.isLeap = false) : t.nanos < 1000000000 :=
  isLeap_eq_false.mp h

lemma place_eq (t : Instant) : place t = t.seconds * 1000000000 + t.nanos := rfl

lemma place_lt {a b : Instant} (ha : a.isLeap = false) (hb : b.isLeap = false) :
    a < b ↔ place a < place b := by
  have := nanos_lt_second ha
  have := nanos_lt_second hb
  rw [instant_lt, place_eq, place_eq]
  omega

lemma place_le {a b : Instant} (ha : a.isLeap = false) (hb : b.isLeap = false) :
    a ≤ b ↔ place a ≤ place b := by
  rw [← not_lt, place_lt hb ha, not_lt]

lemma spanTo_of_not_leap {a b : Instant} (ha : a.isLeap = false) (hb : b.isLeap = false) :
    (a.spanTo b).nanos = place b - place a := by
  have noLeap : ¬second ≤ a.nanos := not_le.mpr (nanos_lt_second ha)
  have noLeap' : ¬second ≤ b.nanos := not_le.mpr (nanos_lt_second hb)
  unfold Instant.spanTo place
  simp only [noLeap, noLeap', and_false, if_false]
  ring

lemma isOnTimeLine_iff {n : Int} : IsOnTimeLine n ↔
    -8334601228800 ≤ n / 1000000000 ∧ n / 1000000000 ≤ 8210266876799 := by
  have first : yearStart (-262143) * 86400 = -8334601228800 := by decide
  have last : yearStart 262143 * 86400 = 8210266876799 + 1 := by decide
  unfold IsOnTimeLine second
  rw [first, last]
  omega

/-! ### Sums -/

lemma add?_of_not_leap {t : Instant} (h : t.isLeap = false) (v : Span) : t.add? v =
    Instant.of? ((place t + v.nanos) / 1000000000) ((place t + v.nanos) % 1000000000).toNat := by
  have noLeap : ¬second ≤ t.nanos := not_le.mpr (nanos_lt_second h)
  unfold Instant.add? place
  simp only [noLeap, false_and, if_false]
  rfl

/-- The sum of an instant and a span is the instant at the sum of their numbers. -/
lemma add?_eq_some {t u : Instant} (h : t.isLeap = false) {v : Span} :
    t.add? v = some u ↔ u.isLeap = false ∧ place u = place t + v.nanos := by
  rw [add?_of_not_leap h]
  constructor
  · intro found
    obtain ⟨hseconds, hnanos⟩ := of?_eq_some found
    refine ⟨isLeap_eq_false.mpr (by omega), ?_⟩
    rw [place_eq, hseconds, hnanos]
    omega
  · rintro ⟨noLeap, hplace⟩
    have := nanos_lt_second noLeap
    have hseconds : (place t + v.nanos) / 1000000000 = u.seconds := by
      rw [← hplace, place_eq]
      omega
    have hnanos : ((place t + v.nanos) % 1000000000).toNat = u.nanos := by
      rw [← hplace, place_eq]
      omega
    rw [hseconds, hnanos, of?_self]

/-- There is no sum just where the time line has ended. -/
lemma add?_eq_none {t : Instant} (h : t.isLeap = false) {v : Span} :
    t.add? v = none ↔ ¬IsOnTimeLine (place t + v.nanos) := by
  have below : ((place t + v.nanos) % 1000000000).toNat < 1000000000 := by omega
  rw [add?_of_not_leap h, isOnTimeLine_iff]
  unfold Instant.of?
  simp only [second]
  split
  · rename_i found
    simp [found.1]
  · rename_i missing
    simp only [true_iff]
    intro inside
    exact missing ⟨inside, by omega⟩

/-- The span to a sum is the span that was added. -/
lemma spanTo_of_add? {t u : Instant} (h : t.isLeap = false) {v : Span} (added : t.add? v = some u) :
    t.spanTo u = v := by
  obtain ⟨noLeap, sum⟩ := (add?_eq_some h).mp added
  have length : (t.spanTo u).nanos = v.nanos := by
    rw [spanTo_of_not_leap h noLeap, sum]
    omega
  exact congrArg Span.mk length

/-! ### Spans -/

/-- A leap second at the end of a day, and the first second of the next day. -/
structure MeetAtMidnight (a b : Instant) : Prop where
  leap : a.isLeap = true
  last : a.secondOfDay = 86399
  next : b.seconds = a.seconds + 1

lemma place_spanTo (a b : Instant) : (a.spanTo b).nanos = place b - place a +
    (if a.secondOfDay < b.secondOfDay ∧ second ≤ a.nanos then 1000000000
    else if b.secondOfDay < a.secondOfDay ∧ second ≤ b.nanos then -1000000000
    else 0) := by
  unfold Instant.spanTo
  rw [place_eq, place_eq]
  simp only [second]
  split_ifs <;> omega

lemma meetAtMidnight_iff {a b : Instant} : MeetAtMidnight a b ↔
    1000000000 ≤ a.nanos ∧ a.seconds % 86400 = 86399 ∧ b.seconds = a.seconds + 1 := by
  have last : a.secondOfDay = 86399 ↔ a.seconds % 86400 = 86399 := by
    unfold Instant.secondOfDay
    omega
  have leap : a.isLeap = true ↔ 1000000000 ≤ a.nanos := by
    simp [Instant.isLeap]
  rw [← last, ← leap]
  exact ⟨fun h => ⟨h.leap, h.last, h.next⟩, fun h => ⟨h.1, h.2.1, h.2.2⟩⟩

/-- Within one second only the nanoseconds differ, also in a leap second. -/
lemma spanTo_of_seconds_eq {a b : Instant} (h : a.seconds = b.seconds) :
    (a.spanTo b).nanos = b.nanos - a.nanos := by
  have same : a.secondOfDay = b.secondOfDay := by
    rw [Instant.secondOfDay, Instant.secondOfDay, h]
  rw [place_spanTo, same, if_neg (by omega), if_neg (by omega), place_eq, place_eq, h]
  omega

/-- At midnight the seconds of the day start again, and the leap second is left out. -/
lemma spanTo_of_meetAtMidnight {a b : Instant} (shown : b.IsShown) (h : MeetAtMidnight a b) :
    (a.spanTo b).nanos = place b - place a := by
  obtain ⟨-, last, next⟩ := meetAtMidnight_iff.mp h
  have first : b.secondOfDay = 0 := by
    unfold Instant.secondOfDay
    omega
  have noLeap : ¬second ≤ b.nanos := by
    intro leap
    have := shown leap
    omega
  rw [place_spanTo, first, if_neg (by omega), if_neg (by omega)]
  omega

lemma spanTo_pos {a b : Instant} (shownA : a.IsShown) (shownB : b.IsShown) (h : a.seconds < b.seconds)
    (apart : ¬MeetAtMidnight a b) : 0 < (a.spanTo b).nanos := by
  have below := a.nanos_lt
  have leapA : second ≤ a.nanos → a.seconds % 60 = 59 := shownA
  have leapB : second ≤ b.nanos → b.seconds % 60 = 59 := shownB
  rw [meetAtMidnight_iff] at apart
  simp only [second] at below leapA leapB
  rw [place_spanTo, place_eq, place_eq]
  simp only [second]
  unfold Instant.secondOfDay
  split_ifs with later earlier
  · omega
  · omega
  · omega

/-- Between instants in order that the clock shows the span is what it should be, unless they meet at
midnight. -/
lemma spanTo_cases {a b : Instant} (shownA : a.IsShown) (shownB : b.IsShown) (h : a ≤ b) :
    MeetAtMidnight a b ∧ (a.spanTo b).nanos = place b - place a ∨
    ¬MeetAtMidnight a b ∧ 0 ≤ (a.spanTo b).nanos ∧ ((a.spanTo b).nanos = 0 ↔ b = a) := by
  by_cases meet : MeetAtMidnight a b
  · exact .inl ⟨meet, spanTo_of_meetAtMidnight shownB meet⟩
  refine .inr ⟨meet, ?_⟩
  rw [instant_eq]
  rcases instant_le.mp h with later | ⟨same, later⟩
  · have := spanTo_pos shownA shownB later meet
    omega
  · rw [spanTo_of_seconds_eq same]
    omega

lemma spanTo_neg_iff {a b : Instant} (shownA : a.IsShown) (shownB : b.IsShown) (h : a ≤ b) :
    (a.spanTo b).nanos < 0 ↔ MeetAtMidnight a b ∧ place b < place a := by
  rcases spanTo_cases shownA shownB h with ⟨meet, span⟩ | ⟨apart, span, -⟩
  · rw [span, and_iff_right meet, sub_neg]
  · simp [apart, span]

lemma spanTo_eq_zero_iff {a b : Instant} (shownA : a.IsShown) (shownB : b.IsShown) (h : a ≤ b) :
    (a.spanTo b).nanos = 0 ↔ b = a ∨ MeetAtMidnight a b ∧ place b = place a := by
  rcases spanTo_cases shownA shownB h with ⟨meet, span⟩ | ⟨apart, -, span⟩
  · have differ : b ≠ a := by
      rintro rfl
      have := meet.next
      omega
    rw [span, and_iff_right meet, sub_eq_zero, or_iff_right differ]
  · simp [apart, span]

/-! ### Words -/

lemma isBounded_spanTo (a b : Instant) : IsBounded (a.spanTo b) := by
  have := a.first_le
  have := a.le_last
  have := a.nanos_lt
  have := b.first_le
  have := b.le_last
  have := b.nanos_lt
  have span := place_spanTo a b
  rw [place_eq, place_eq] at span
  unfold IsBounded Span.maxMillis
  simp only [second] at *
  split_ifs at span <;> omega

/-- The sums of which an addition consists fit into words, with a carry in either direction. -/
structure AddsInWords (t : Instant) (v : Span) : Prop where
  seconds : FitsWord 64 (t.secondOfDay + v.wholeSeconds - 1) ∧
    FitsWord 64 (t.secondOfDay + v.wholeSeconds + 1)
  nanos : FitsWord 32 (t.nanos + v.subsecond)

lemma natAbs_wholeSeconds {v : Span} (h : IsBounded v) : v.wholeSeconds.natAbs ≤ 9223372036854775 := by
  have size : v.wholeSeconds.natAbs = v.nanos.natAbs / 1000000000 := Int.natAbs_tdiv v.nanos second
  unfold IsBounded Span.maxMillis at h
  omega

lemma natAbs_subsecond (v : Span) : v.subsecond.natAbs < 1000000000 := by
  have size : v.subsecond.natAbs = v.nanos.natAbs % 1000000000 := Int.natAbs_tmod v.nanos second
  omega

lemma addsInWords {t : Instant} (ht : t.isLeap = false) {v : Span} (hv : IsBounded v) :
    AddsInWords t v := by
  have := secondOfDay_lt t
  have := nanos_lt_second ht
  have := natAbs_wholeSeconds hv
  have := natAbs_subsecond v
  constructor
  · constructor <;> unfold FitsWord <;> omega
  · unfold FitsWord
    omega

end BootstrapVoucher.Proofs
