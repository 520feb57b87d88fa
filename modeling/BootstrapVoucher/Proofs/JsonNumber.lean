import BootstrapVoucher.Json.Token
import BootstrapVoucher.Proofs.Outcome

/-!
# Where a number ends

What follows a number can belong to it. A reader of numbers takes the same front of a text whatever
comes after it, unless that starts with a digit, a point or an exponent. The readers call each other
in a chain: each takes some digits and leaves the rest to the next one, so the property is proved once
for digits and handed along the chain.
-/

namespace BootstrapVoucher.Proofs

open Json

def startsWithDigit (s : Bytes) : Bool := s.head?.any fun x => (Text.digitValue? x).isSome

/-- Whether a text could carry on a number that stands before it. -/
def goesOn (s : Bytes) : Bool := Number.continues s || startsWithDigit s

lemma spanDigits_append {front t : Bytes} (h : ∀ x ∈ front, (Text.digitValue? x).isSome = true)
    (ht : startsWithDigit t = false) :
    Number.spanDigits (front ++ t) = (front.filterMap Text.digitValue?, t) := by
  unfold Number.spanDigits
  rw [List.takeWhile_append_of_pos h, List.dropWhile_append_of_pos h]
  cases t with
  | nil => simp
  | cons x t =>
    have hx : (Text.digitValue? x).isSome = false := ht
    simp [hx]

lemma spanDigits_spec {s rest : Bytes} {digits : List Nat}
    (h : Number.spanDigits s = (digits, rest)) :
    startsWithDigit rest = false ∧ ∃ front, s = front ++ rest ∧ (front = [] → digits = []) ∧
      ∀ t, startsWithDigit t = false → Number.spanDigits (front ++ t) = (digits, t) := by
  obtain ⟨rfl, rfl⟩ := Prod.mk.inj h
  have ended : startsWithDigit (s.dropWhile fun x => (Text.digitValue? x).isSome) = false := by
    have head := List.head?_dropWhile_not (fun x : UInt8 => (Text.digitValue? x).isSome) s
    unfold startsWithDigit
    cases hs : (s.dropWhile fun x => (Text.digitValue? x).isSome).head? with
    | none => rfl
    | some x =>
      rw [hs] at head
      simpa using head
  refine ⟨ended, s.takeWhile fun x => (Text.digitValue? x).isSome, ?_, ?_, ?_⟩
  · exact (List.takeWhile_append_dropWhile).symm
  · intro empty
    rw [empty, List.filterMap_nil]
  · intro t ht
    exact spanDigits_append (fun x hx => by simpa using List.mem_takeWhile_imp hx) ht

/-- From `s`, which does not start with a digit, `a` was read and `rest` was left: whatever takes the
place of `rest` and does not go on with a number, the same is read before it. -/
def ReadsOn (read : Bytes → Except Fault (Number × Bytes)) (s : Bytes) (n : Number) (rest : Bytes) :
    Prop :=
  startsWithDigit rest = false ∧ ∃ front, s = front ++ rest ∧
    ∀ t, goesOn t = false → startsWithDigit (front ++ t) = false ∧ read (front ++ t) = .ok (n, t)

/-- The same for what starts with a digit, or with a sign and a digit. -/
def ReadsFront (read : Bytes → Except Fault (Number × Bytes)) (s : Bytes) (n : Number)
    (rest : Bytes) : Prop :=
  startsWithDigit rest = false ∧ ∃ x front, s = x :: front ++ rest ∧
    ∀ t, goesOn t = false → read (x :: front ++ t) = .ok (n, t)

lemma startsWithDigit_of_goesOn {t : Bytes} (h : goesOn t = false) : startsWithDigit t = false :=
  (Bool.or_eq_false_iff.mp h).2

lemma readsOn_value {read : Bytes → Except Fault (Number × Bytes)} {value : Except Fault Number}
    {s rest : Bytes} {n : Number} (hread : ∀ t, goesOn t = false → read t = value.map (·, t))
    (hs : startsWithDigit s = false) (h : value.map (·, s) = .ok (n, rest)) :
    ReadsOn read s n rest := by
  obtain ⟨m, hm, heq⟩ := map_eq_ok.mp h
  obtain ⟨rfl, rfl⟩ := Prod.mk.inj heq
  refine ⟨hs, [], rfl, fun t ht => ⟨startsWithDigit_of_goesOn ht, ?_⟩⟩
  rw [List.nil_append, hread t ht, hm]
  rfl

/-- A reader that takes digits and goes on by what they are. -/
lemma readsFront_of_digits {read next : Bytes → Except Fault (Number × Bytes)}
    {s tail rest : Bytes} {digits : List Nat} {n : Number} (hdigits : digits ≠ [])
    (hread : ∀ u r, Number.spanDigits u = (digits, r) → read u = next r)
    (hs : Number.spanDigits s = (digits, tail))
    (h : startsWithDigit tail = false → ReadsOn next tail n rest) : ReadsFront read s n rest := by
  obtain ⟨stops, digitBytes, rfl, digitless, spanned⟩ := spanDigits_spec hs
  obtain ⟨ended, front, rfl, reads⟩ := h stops
  cases digitBytes with
  | nil => exact absurd (digitless rfl) hdigits
  | cons x digitBytes =>
    refine ⟨ended, x, digitBytes ++ front, ?_, fun t ht => ?_⟩
    · rw [List.cons_append, List.cons_append, List.append_assoc]
    · obtain ⟨htail, hnext⟩ := reads t ht
      rw [List.cons_append, List.append_assoc, ← List.cons_append, hread _ _ (spanned _ htail), hnext]

lemma readExponentDigits_eq (isNegative down : Bool) (significand : Nat) (exponent : Int)
    {digits : List Nat} (hdigits : digits ≠ []) :
    ∃ value : Except Fault Number, ∀ u r, Number.spanDigits u = (digits, r) →
      Number.readExponentDigits isNegative significand exponent down u = value.map (·, r) := by
  obtain ⟨d, digits, rfl⟩ := List.exists_cons_of_ne_nil hdigits
  refine ⟨let size := (d :: digits).foldl (fun n d => n * 10 + d) 0
    if size ≤ Number.maxExponent then
      Number.ofParts isNegative significand (if down then exponent - size else exponent + size)
    else if significand = 0 ∨ down then .ok (.double isNegative ⟨0, -1074⟩)
    else .error .numberRange, fun u r hu => ?_⟩
  unfold Number.readExponentDigits
  rw [hu]
  simp only
  split
  · rfl
  · split <;> rfl

lemma readExponentDigits_front {isNegative down : Bool} {significand : Nat} {exponent : Int}
    {s rest : Bytes} {n : Number}
    (h : Number.readExponentDigits isNegative significand exponent down s = .ok (n, rest)) :
    ReadsFront (Number.readExponentDigits isNegative significand exponent down) s n rest := by
  cases hs : Number.spanDigits s with
  | mk digits tail =>
    have hdigits : digits ≠ [] := by
      rintro rfl
      unfold Number.readExponentDigits at h
      rw [hs] at h
      cases tail <;> cases h
    obtain ⟨value, hvalue⟩ := readExponentDigits_eq isNegative down significand exponent hdigits
    rw [hvalue s tail hs] at h
    exact readsFront_of_digits hdigits hvalue hs fun stops => readsOn_value (fun _ _ => rfl) stops h

lemma readExponent_front {isNegative : Bool} {significand : Nat} {exponent : Int} {s rest : Bytes}
    {n : Number} (h : Number.readExponent isNegative significand exponent s = .ok (n, rest)) :
    ReadsFront (Number.readExponent isNegative significand exponent) s n rest := by
  unfold Number.readExponent at h
  split at h
  · obtain ⟨ended, x, front, rfl, reads⟩ := readExponentDigits_front h
    exact ⟨ended, 43, x :: front, rfl, reads⟩
  · obtain ⟨ended, x, front, rfl, reads⟩ := readExponentDigits_front h
    exact ⟨ended, 45, x :: front, rfl, reads⟩
  · rename_i noPlus noMinus
    obtain ⟨ended, x, front, rfl, reads⟩ := readExponentDigits_front h
    refine ⟨ended, x, front, rfl, fun t ht => ?_⟩
    rw [← reads t ht, List.cons_append, Number.readExponent]
    · rintro _ ⟨⟩
      exact noPlus _ rfl
    · rintro _ ⟨⟩
      exact noMinus _ rfl

/-- Whether an exponent is announced. -/
lemma readTail_on {isNegative : Bool} {significand : Nat} {exponent : Int} {s rest : Bytes}
    {n : Number} (hs : startsWithDigit s = false)
    (h : Number.readTail isNegative significand exponent s = .ok (n, rest)) :
    ReadsOn (Number.readTail isNegative significand exponent) s n rest := by
  unfold Number.readTail at h
  split at h
  · obtain ⟨ended, x, front, rfl, reads⟩ := readExponent_front h
    exact ⟨ended, 101 :: x :: front, rfl, fun t ht => ⟨rfl, reads t ht⟩⟩
  · obtain ⟨ended, x, front, rfl, reads⟩ := readExponent_front h
    exact ⟨ended, 69 :: x :: front, rfl, fun t ht => ⟨rfl, reads t ht⟩⟩
  · refine readsOn_value (fun t ht => ?_) hs h
    rw [Number.readTail]
    · rintro _ rfl
      cases ht
    · rintro _ rfl
      cases ht

lemma readFraction_front {isNegative : Bool} {significand dropped : Nat} {s rest : Bytes}
    {n : Number} (h : Number.readFraction isNegative significand dropped s = .ok (n, rest)) :
    ReadsFront (Number.readFraction isNegative significand dropped) s n rest := by
  cases hs : Number.spanDigits s with
  | mk digits tail =>
    cases digits with
    | nil =>
      unfold Number.readFraction at h
      rw [hs] at h
      cases tail <;> cases h
    | cons d digits =>
      have hread : ∀ u r, Number.spanDigits u = (d :: digits, r) →
          Number.readFraction isNegative significand dropped u =
            Number.readTail isNegative (Number.absorb significand (d :: digits)).1
              ((dropped : Int) - ((d :: digits).length -
                (Number.absorb significand (d :: digits)).2.length : Nat)) r := by
        intro u r hu
        unfold Number.readFraction
        rw [hu]
      rw [hread s tail hs] at h
      exact readsFront_of_digits (List.cons_ne_nil _ _) hread hs fun stops => readTail_on stops h

/-- What is read of a number once the digits before its point are known. -/
def afterDigits (isNegative : Bool) (digits : List Nat) (s : Bytes) :
    Except Fault (Number × Bytes) :=
  let (significand, dropped) := Number.absorb 0 digits
  if dropped.isEmpty ∧ ¬ Number.continues s then (Number.ofInteger isNegative significand).map (·, s)
  else
    match s with
    | 46 :: rest => Number.readFraction isNegative significand dropped.length rest
    | _ => Number.readTail isNegative significand dropped.length s

lemma afterDigits_point (isNegative : Bool) (digits : List Nat) (s : Bytes) :
    afterDigits isNegative digits (46 :: s) = Number.readFraction isNegative
      (Number.absorb 0 digits).1 (Number.absorb 0 digits).2.length s := by
  have hcontinues : Number.continues (46 :: s) = true := rfl
  simp [afterDigits, hcontinues]

lemma afterDigits_exponent (isNegative : Bool) (digits : List Nat) {x : UInt8}
    (hx : x = 101 ∨ x = 69) (s : Bytes) :
    afterDigits isNegative digits (x :: s) = Number.readExponent isNegative
      (Number.absorb 0 digits).1 (Number.absorb 0 digits).2.length s := by
  rcases hx with rfl | rfl
  · have hcontinues : Number.continues (101 :: s) = true := rfl
    simp [afterDigits, hcontinues, Number.readTail]
  · have hcontinues : Number.continues (69 :: s) = true := rfl
    simp [afterDigits, hcontinues, Number.readTail]

lemma continues_cons {x : UInt8} {s : Bytes} :
    Number.continues (x :: s) = true ↔ x = 46 ∨ x = 101 ∨ x = 69 := by
  simp [Number.continues, or_assoc]

lemma afterDigits_eq (isNegative : Bool) (digits : List Nat) :
    ∃ value : Except Fault Number, ∀ s, Number.continues s = false →
      afterDigits isNegative digits s = value.map (·, s) := by
  refine ⟨if (Number.absorb 0 digits).2.isEmpty then
      Number.ofInteger isNegative (Number.absorb 0 digits).1
    else Number.ofParts isNegative (Number.absorb 0 digits).1 (Number.absorb 0 digits).2.length,
    fun s hs => ?_⟩
  unfold afterDigits
  by_cases whole : (Number.absorb 0 digits).2.isEmpty = true
  · simp [whole, hs]
  · simp only [whole, false_and, Bool.false_eq_true, if_false]
    split
    · cases hs
    · unfold Number.readTail
      split
      · cases hs
      · cases hs
      · rfl

lemma afterDigits_on {isNegative : Bool} {digits : List Nat} {s rest : Bytes} {n : Number}
    (hs : startsWithDigit s = false) (h : afterDigits isNegative digits s = .ok (n, rest)) :
    ReadsOn (afterDigits isNegative digits) s n rest := by
  by_cases hcontinues : Number.continues s = true
  · cases s with
    | nil => cases hcontinues
    | cons x s =>
      rcases continues_cons.mp hcontinues with rfl | hx
      · rw [afterDigits_point] at h
        obtain ⟨ended, y, front, rfl, reads⟩ := readFraction_front h
        refine ⟨ended, 46 :: y :: front, rfl, fun t ht => ⟨rfl, ?_⟩⟩
        rw [← reads t ht]
        exact afterDigits_point isNegative digits _
      · rw [afterDigits_exponent isNegative digits hx] at h
        obtain ⟨ended, y, front, rfl, reads⟩ := readExponent_front h
        refine ⟨ended, x :: y :: front, rfl, fun t ht => ⟨hs, ?_⟩⟩
        rw [← reads t ht]
        exact afterDigits_exponent isNegative digits hx _
  · obtain ⟨value, hvalue⟩ := afterDigits_eq isNegative digits
    rw [hvalue s (by simpa using hcontinues)] at h
    exact readsOn_value (fun t ht => hvalue t (Bool.or_eq_false_iff.mp ht).1) hs h

lemma readUnsigned_front {isNegative : Bool} {s rest : Bytes} {n : Number}
    (h : Number.readUnsigned isNegative s = .ok (n, rest)) :
    ReadsFront (Number.readUnsigned isNegative) s n rest := by
  cases hs : Number.spanDigits s with
  | mk digits tail =>
    have started : digits ≠ [] ∧ ∀ d others, digits ≠ 0 :: d :: others := by
      unfold Number.readUnsigned at h
      rw [hs] at h
      constructor
      · rintro rfl
        cases tail <;> cases h
      · rintro d others rfl
        cases h
    have hread : ∀ u r, Number.spanDigits u = (digits, r) →
        Number.readUnsigned isNegative u = afterDigits isNegative digits r := by
      intro u r hu
      unfold Number.readUnsigned
      rw [hu]
      split
      · rename_i none
        exact absurd (Prod.mk.inj none).1 started.1
      · rename_i none
        exact absurd (Prod.mk.inj none).1 started.1
      · rename_i zero
        exact absurd (Prod.mk.inj zero).1 (started.2 _ _)
      · rename_i found
        obtain ⟨rfl, rfl⟩ := Prod.mk.inj found
        rfl
    rw [hread s tail hs] at h
    exact readsFront_of_digits started.1 hread hs fun stops => afterDigits_on stops h

/-- Reads a number with its sign. -/
def readNumber : Bytes → Except Fault (Number × Bytes)
  | 45 :: s => Number.readUnsigned true s
  | s => Number.readUnsigned false s

end BootstrapVoucher.Proofs
