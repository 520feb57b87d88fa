import BootstrapVoucher.Bytes
import BootstrapVoucher.Json.Binary64

/-!
# JSON numbers

A number without point and exponent is kept exactly while it fits 64 bits, signed if it is negative.
Every other number is a double: the leading digits that fit 64 bits, rounded, times or divided by a
rounded power of ten. Digits that no longer fit only move the exponent.
-/

namespace BootstrapVoucher.Json

/-- A number as a document holds it. -/
inductive Number
  | natural (n : Nat)
  /-- The negative of a number that is not zero. -/
  | negative (n : Nat)
  | double (isNegative : Bool) (x : Binary64)
deriving DecidableEq, Repr

/-- Why a byte string is not a JSON text. -/
inductive Fault
  | endInValue
  | endInObject
  | endInArray
  | endInString
  | expectedValue
  | expectedWord
  | expectedColon
  | expectedCommaOrBrace
  | expectedCommaOrBracket
  | keyNotString
  | trailingComma
  | trailingText
  | badNumber
  | numberRange
  | badEscape
  | badUnicode
  | control
  | unpairedSurrogate
  | loneSurrogate
  | tooDeep
deriving DecidableEq, Repr

/-- The text of a fault. The line and the column where it is met, which a report of it also gives, are not
part of the text. -/
def Fault.message : Fault → String
  | .endInValue => "EOF while parsing a value"
  | .endInObject => "EOF while parsing an object"
  | .endInArray => "EOF while parsing a list"
  | .endInString => "EOF while parsing a string"
  | .expectedValue => "expected value"
  | .expectedWord => "expected ident"
  | .expectedColon => "expected `:`"
  | .expectedCommaOrBrace => "expected `,` or `\x7d`"
  | .expectedCommaOrBracket => "expected `,` or `]`"
  | .keyNotString => "key must be a string"
  | .trailingComma => "trailing comma"
  | .trailingText => "trailing characters"
  | .badNumber => "invalid number"
  | .numberRange => "number out of range"
  | .badEscape => "invalid escape"
  | .badUnicode => "invalid unicode code point"
  | .control => "control character (\\u0000-\\u001F) found while parsing a string"
  | .unpairedSurrogate => "unexpected end of hex escape"
  | .loneSurrogate => "lone leading surrogate in hex escape"
  | .tooDeep => "recursion limit exceeded"

namespace Number

def text : Number → List Char
  | .natural n => Text.digits n
  | .negative n => '-' :: Text.digits n
  | .double isNegative x => (if isNegative then ['-'] else []) ++ x.text

/-- The digits at the front of a text, by value, and what follows them. -/
def spanDigits (s : Bytes) : List Nat × Bytes :=
  ((s.takeWhile fun x => (Text.digitValue? x).isSome).filterMap Text.digitValue?,
    s.dropWhile fun x => (Text.digitValue? x).isSome)

/-- Appends digits to a significand as long as it fits 64 bits; also gives the digits left over. -/
def absorb : (significand : Nat) → (digits : List Nat) → Nat × List Nat
  | significand, [] => (significand, [])
  | significand, d :: rest =>
    if significand * 10 + d < 1 <<< 64 then absorb (significand * 10 + d) rest
    else (significand, d :: rest)

/-- The power of ten `10 ^ k` as a double, for `k` up to 308. -/
def powerOfTen (k : Nat) : Binary64 := (Binary64.nearest (Text.powerOfTen k) 1).getD ⟨0, -1074⟩

/-- Divides by `10 ^ 308` until the exponent is at most 308 in size or nothing is left, then scales
by what remains of the exponent. -/
def scale (x : Binary64) (exponent : Int) : Except Fault Binary64 :=
  if exponent.natAbs ≤ 308 then
    let power := powerOfTen exponent.natAbs
    match if 0 ≤ exponent then x.mul? power else x.div? power with
    | some y => .ok y
    | none => .error .numberRange
  else if x.significand = 0 then .ok x
  else if 0 ≤ exponent then .error .numberRange
  else scale ((x.div? (powerOfTen 308)).getD ⟨0, -1074⟩) (exponent + 308)
termination_by exponent.natAbs
decreasing_by omega

/-- The double `significand * 10 ^ exponent`. -/
def ofParts (isNegative : Bool) (significand : Nat) (exponent : Int) : Except Fault Number := do
  let some x := Binary64.nearest significand 1 | .error .numberRange
  return .double isNegative (← scale x exponent)

/-- The largest exponent that is read digit by digit. -/
def maxExponent : Nat := 1 <<< 31 - 1

/-- Reads the digits of an exponent after its sign; the exponent counts down for a minus. -/
def readExponentDigits (isNegative : Bool) (significand : Nat) (exponent : Int) (down : Bool)
    (s : Bytes) : Except Fault (Number × Bytes) :=
  match spanDigits s with
  | ([], []) => .error .endInValue
  | ([], _) => .error .badNumber
  | (digits, rest) =>
    let size := digits.foldl (fun n d => n * 10 + d) 0
    if size ≤ maxExponent then
      (ofParts isNegative significand (if down then exponent - size else exponent + size)).map (·, rest)
    else if significand = 0 ∨ down then .ok (.double isNegative ⟨0, -1074⟩, rest)
    else .error .numberRange

def readExponent (isNegative : Bool) (significand : Nat) (exponent : Int) (s : Bytes) :
    Except Fault (Number × Bytes) :=
  match s with
  | 43 :: rest => readExponentDigits isNegative significand exponent false rest
  | 45 :: rest => readExponentDigits isNegative significand exponent true rest
  | _ => readExponentDigits isNegative significand exponent false s

/-- Reads an exponent, if there is one. -/
def readTail (isNegative : Bool) (significand : Nat) (exponent : Int) (s : Bytes) :
    Except Fault (Number × Bytes) :=
  match s with
  | 101 :: rest | 69 :: rest => readExponent isNegative significand exponent rest
  | _ => (ofParts isNegative significand exponent).map (·, s)

/-- Reads the fraction after its point. `dropped` digits before the point did not fit the
significand. -/
def readFraction (isNegative : Bool) (significand dropped : Nat) (s : Bytes) :
    Except Fault (Number × Bytes) :=
  match spanDigits s with
  | ([], []) => .error .endInValue
  | ([], _) => .error .badNumber
  | (digits, rest) =>
    let (all, unused) := absorb significand digits
    readTail isNegative all ((dropped : Int) - (digits.length - unused.length : Nat)) rest

def ofInteger (isNegative : Bool) (significand : Nat) : Except Fault Number :=
  if ¬ isNegative then .ok (.natural significand)
  else if 0 < significand ∧ significand ≤ 1 <<< 63 then .ok (.negative significand)
  else ofParts true significand 0

def continues (s : Bytes) : Bool := s.head? == some 46 || s.head? == some 101 || s.head? == some 69

/-- Reads a number whose sign has been read. -/
def readUnsigned (isNegative : Bool) (s : Bytes) : Except Fault (Number × Bytes) :=
  match spanDigits s with
  | ([], []) => .error .endInValue
  | ([], _) => .error .badNumber
  | (0 :: _ :: _, _) => .error .badNumber
  | (digits, rest) =>
    let (significand, dropped) := absorb 0 digits
    if dropped.isEmpty ∧ ¬ continues rest then (ofInteger isNegative significand).map (·, rest)
    else
      match rest with
      | 46 :: rest => readFraction isNegative significand dropped.length rest
      | _ => readTail isNegative significand dropped.length rest

theorem length_spanDigits (s : Bytes) : (spanDigits s).2.length ≤ s.length :=
  (List.dropWhile_suffix _).length_le

theorem snd_of_map_pair {n : Except Fault Number} {rest : Bytes} {r : Number × Bytes}
    (h : n.map (·, rest) = .ok r) : r.2 = rest := by
  cases n with
  | error f => cases h
  | ok n => cases h; rfl

theorem length_readExponentDigits {isNegative : Bool} {significand : Nat} {exponent : Int}
    {down : Bool} {s : Bytes} {r : Number × Bytes}
    (h : readExponentDigits isNegative significand exponent down s = .ok r) :
    r.2.length ≤ s.length := by
  unfold readExponentDigits at h
  have bound := length_spanDigits s
  split at h
  · cases h
  · cases h
  · rename_i eq
    rw [eq] at bound
    simp only at h bound
    split at h
    · rw [snd_of_map_pair h]; exact bound
    · split at h
      · cases h; exact bound
      · cases h

theorem length_readTail {isNegative : Bool} {significand : Nat} {exponent : Int} {s : Bytes}
    {r : Number × Bytes} (h : readTail isNegative significand exponent s = .ok r) :
    r.2.length ≤ s.length := by
  have exponentPart : ∀ {t : Bytes}, readExponent isNegative significand exponent t = .ok r →
      r.2.length ≤ t.length := by
    intro t h
    unfold readExponent at h
    split at h
    · have := length_readExponentDigits h; simp only [List.length_cons]; omega
    · have := length_readExponentDigits h; simp only [List.length_cons]; omega
    · exact length_readExponentDigits h
  unfold readTail at h
  split at h
  · have := exponentPart h; simp only [List.length_cons]; omega
  · have := exponentPart h; simp only [List.length_cons]; omega
  · exact Nat.le_of_eq (congrArg List.length (snd_of_map_pair h))

theorem length_readFraction {isNegative : Bool} {significand dropped : Nat} {s : Bytes}
    {r : Number × Bytes} (h : readFraction isNegative significand dropped s = .ok r) :
    r.2.length ≤ s.length := by
  unfold readFraction at h
  have bound := length_spanDigits s
  split at h
  · cases h
  · cases h
  · rename_i eq
    rw [eq] at bound
    exact Nat.le_trans (length_readTail h) bound

/-- Reading a number goes at least past its first digits. -/
theorem length_readUnsigned {isNegative : Bool} {s : Bytes} {r : Number × Bytes}
    (h : readUnsigned isNegative s = .ok r) : r.2.length ≤ (spanDigits s).2.length := by
  unfold readUnsigned at h
  split at h
  · cases h
  · cases h
  · cases h
  · rename_i eq
    rw [eq]
    simp only at h ⊢
    split at h
    · exact Nat.le_of_eq (congrArg List.length (snd_of_map_pair h))
    · split at h
      · have := length_readFraction h
        simp only [List.length_cons]
        omega
      · exact length_readTail h

theorem spanDigits_cons {x : UInt8} (h : (Text.digitValue? x).isSome) (s : Bytes) :
    (spanDigits (x :: s)).2 = (spanDigits s).2 := by
  simp [spanDigits, h]

end Number

end BootstrapVoucher.Json
