import BootstrapVoucher.Json.Token

/-!
# Values that are passed over

A value that counts for nothing is only followed to its end. Its brackets, commas and colons must be in
their places and its numbers must be well formed; how large a number is, how deep arrays and objects are
nested and whether the bytes of a string make up a text is not asked.
-/

namespace BootstrapVoucher.Json

/-- What a value stands in. -/
inductive Enclosure
  | array
  | object
deriving DecidableEq, Repr

/-- Passes over a string after its opening quotation mark. -/
def skipString : Bytes → Except Fault Bytes
  | [] => .error .endInString
  | [92] => .error .endInString
  | 92 :: 117 :: a :: b :: c :: d :: s =>
    if (hex4? a b c d).isSome then skipString s else .error .badEscape
  | 92 :: 117 :: _ => .error .endInString
  | 92 :: x :: s => if (escapeValue? x).isSome then skipString s else .error .badEscape
  | 34 :: s => .ok s
  | x :: s => if x < 32 then .error .control else skipString s

namespace Number

/-- Passes over digits, of which there must be one at least. -/
def skipDigits (s : Bytes) : Except Fault Bytes :=
  match spanDigits s with
  | ([], _) => .error .badNumber
  | (_, rest) => .ok rest

/-- Passes over an exponent, if there is one. -/
def skipExponent : Bytes → Except Fault Bytes
  | 101 :: 43 :: s | 101 :: 45 :: s | 69 :: 43 :: s | 69 :: 45 :: s => skipDigits s
  | 101 :: s | 69 :: s => skipDigits s
  | s => .ok s

/-- Passes over a fraction and an exponent, as far as there are any. -/
def skipFraction : Bytes → Except Fault Bytes
  | 46 :: s => do skipExponent (← skipDigits s)
  | s => skipExponent s

/-- Passes over a number whose sign has been read. -/
def skipUnsigned (s : Bytes) : Except Fault Bytes :=
  match spanDigits s with
  | ([], _) => .error .badNumber
  | (0 :: _ :: _, _) => .error .badNumber
  | (_, rest) => skipFraction rest

theorem length_skipDigits {s rest : Bytes} (h : skipDigits s = .ok rest) : rest.length ≤ s.length := by
  have bound := length_spanDigits s
  unfold skipDigits at h
  split at h
  · cases h
  · rename_i eq
    cases h
    rwa [eq] at bound

theorem length_skipExponent {s rest : Bytes} (h : skipExponent s = .ok rest) :
    rest.length ≤ s.length := by
  unfold skipExponent at h
  split at h
  case h_7 =>
    cases h
    exact Nat.le_refl _
  all_goals
    have := length_skipDigits h
    simp only [List.length_cons]
    omega

theorem length_skipFraction {s rest : Bytes} (h : skipFraction s = .ok rest) :
    rest.length ≤ s.length := by
  unfold skipFraction at h
  split at h
  · rename_i s
    cases digits : skipDigits s with
    | error fault => rw [digits] at h; cases h
    | ok middle =>
      rw [digits] at h
      have := length_skipDigits digits
      have := length_skipExponent (s := middle) h
      simp only [List.length_cons]
      omega
  · exact length_skipExponent h

theorem length_skipUnsigned {s rest : Bytes} (h : skipUnsigned s = .ok rest) :
    rest.length ≤ (spanDigits s).2.length := by
  unfold skipUnsigned at h
  split at h
  · cases h
  · cases h
  · rename_i eq
    rw [eq]
    exact length_skipFraction h

end Number

/-- Passes over a value that is no array or object and starts with the byte `x`. -/
def skipScalar (x : UInt8) (s : Bytes) : Except Fault Bytes :=
  match wordOf? x with
  | some word => readWord word.spelling.tail s
  | none =>
    if x = 34 then skipString s
    else if x = 45 then Number.skipUnsigned s
    else if (Text.digitValue? x).isSome then Number.skipUnsigned (x :: s)
    else .error .expectedValue

/-- How far a value has been followed; what the place stands in comes innermost first. -/
inductive Skip
  | value (outer : List Enclosure)
  /-- An array or object has just been opened. -/
  | first (e : Enclosure) (outer : List Enclosure)
  /-- A value has ended inside of an array or object. -/
  | after (e : Enclosure) (outer : List Enclosure)
  | name (outer : List Enclosure)
  | colon (outer : List Enclosure)
deriving DecidableEq, Repr

namespace Skip

/-- What comes after a value; that is nothing outside of all arrays and objects. -/
def leave : List Enclosure → Option Skip
  | [] => none
  | e :: outer => some (.after e outer)

def start (outer : List Enclosure) (x : UInt8) (s : Bytes) : Except Fault (Option Skip × Bytes) :=
  if x = 91 then .ok (some (.first .array outer), s)
  else if x = 123 then .ok (some (.first .object outer), s)
  else (skipScalar x s).map (leave outer, ·)

def startName (outer : List Enclosure) (x : UInt8) (s : Bytes) : Except Fault (Option Skip × Bytes) :=
  if x = 34 then (skipString s).map (some (.colon outer), ·) else .error .keyNotString

/-- Goes on with the byte `x`, which is not blank, and as much of what follows it as belongs to it. -/
def step : Skip → UInt8 → Bytes → Except Fault (Option Skip × Bytes)
  | .value outer, x, s => start outer x s
  | .first .array outer, x, s =>
    if x = 93 then .ok (leave outer, s) else start (.array :: outer) x s
  | .first .object outer, x, s => if x = 125 then .ok (leave outer, s) else startName outer x s
  | .after .array outer, x, s =>
    if x = 44 then .ok (some (.value (.array :: outer)), s)
    else if x = 93 then .ok (leave outer, s)
    else .error .expectedCommaOrBracket
  | .after .object outer, x, s =>
    if x = 44 then .ok (some (.name outer), s)
    else if x = 125 then .ok (leave outer, s)
    else .error .expectedCommaOrBrace
  | .name outer, x, s => startName outer x s
  | .colon outer, x, s =>
    if x = 58 then .ok (some (.value (.object :: outer)), s) else .error .expectedColon

/-- What is wrong with a text that ends here. -/
def fault : Skip → Fault
  | .value _ => .endInValue
  | .first .array _ | .after .array _ => .endInArray
  | .first .object _ | .after .object _ | .name _ | .colon _ => .endInObject

end Skip

theorem length_skipString {s rest : Bytes} (h : skipString s = .ok rest) : rest.length ≤ s.length := by
  fun_induction skipString s with
  | case1 | case2 | case4 | case5 | case7 | case9 => cases h
  | case3 a b c d s _ ih =>
    have := ih h
    simp only [List.length_cons]
    omega
  | case6 x s _ _ _ ih =>
    have := ih h
    simp only [List.length_cons]
    omega
  | case8 s => cases h; simp
  | case10 x s _ _ _ _ _ _ ih => exact Nat.le_succ_of_le (ih h)

theorem length_skipScalar {x : UInt8} {s rest : Bytes} (h : skipScalar x s = .ok rest) :
    rest.length ≤ s.length := by
  unfold skipScalar at h
  split at h
  · exact length_readWord h
  · split at h
    · exact length_skipString h
    · split at h
      · exact Nat.le_trans (Number.length_skipUnsigned h) (Number.length_spanDigits s)
      · split at h
        · rename_i digit
          have bound := Number.length_skipUnsigned h
          rw [Number.spanDigits_cons digit] at bound
          exact Nat.le_trans bound (Number.length_spanDigits s)
        · cases h

namespace Skip

theorem length_of_map {read : Except Fault Bytes} {next : Option Skip} {n : Nat}
    {r : Option Skip × Bytes} (h : read.map (next, ·) = .ok r)
    (bound : ∀ rest, read = .ok rest → rest.length ≤ n) : r.2.length ≤ n := by
  cases read with
  | error fault => cases h
  | ok rest => cases h; exact bound rest rfl

theorem length_start {outer : List Enclosure} {x : UInt8} {s : Bytes} {r : Option Skip × Bytes}
    (h : start outer x s = .ok r) : r.2.length ≤ s.length := by
  unfold start at h
  split at h
  · cases h; exact Nat.le_refl _
  · split at h
    · cases h; exact Nat.le_refl _
    · exact length_of_map h fun _ => length_skipScalar

theorem length_startName {outer : List Enclosure} {x : UInt8} {s : Bytes} {r : Option Skip × Bytes}
    (h : startName outer x s = .ok r) : r.2.length ≤ s.length := by
  unfold startName at h
  split at h
  · exact length_of_map h fun _ => length_skipString
  · cases h

/-- A step leaves no more than what follows its first byte. -/
theorem length_step {state : Skip} {x : UInt8} {s : Bytes} {r : Option Skip × Bytes}
    (h : state.step x s = .ok r) : r.2.length ≤ s.length := by
  unfold step at h
  split at h
  case h_1 => exact length_start h
  case h_2 =>
    split at h
    · cases h; exact Nat.le_refl _
    · exact length_start h
  case h_3 =>
    split at h
    · cases h; exact Nat.le_refl _
    · exact length_startName h
  case h_4 | h_5 =>
    split at h
    · cases h; exact Nat.le_refl _
    · split at h
      · cases h; exact Nat.le_refl _
      · cases h
  case h_6 => exact length_startName h
  case h_7 =>
    split at h
    · cases h; exact Nat.le_refl _
    · cases h

/-- Follows a value to its end, and gives what comes behind it. -/
def run (state : Skip) : Bytes → Except Fault Bytes
  | [] => .error state.fault
  | x :: s =>
    if isBlank x then run state s
    else
      match _ : state.step x s with
      | .error fault => .error fault
      | .ok (none, rest) => .ok rest
      | .ok (some next, rest) => run next rest
termination_by s => s.length
decreasing_by
  · simp
  · have := length_step ‹_›
    simp only [List.length_cons] at this ⊢
    omega

theorem length_run {state : Skip} {s rest : Bytes} (h : state.run s = .ok rest) :
    rest.length < s.length := by
  fun_induction run state s with
  | case1 => cases h
  | case2 state x s _ ih => exact Nat.lt_succ_of_lt (ih h)
  | case3 => cases h
  | case4 state x s _ rest' stepped =>
    cases h
    exact Nat.lt_succ_of_le (length_step stepped)
  | case5 state x s _ next rest' stepped ih =>
    have := ih h
    have := length_step stepped
    simp only [List.length_cons] at this ⊢
    omega

end Skip

/-- Passes over a value, and gives what comes behind it. -/
def skipValue (s : Bytes) : Except Fault Bytes := (Skip.value []).run s

end BootstrapVoucher.Json
