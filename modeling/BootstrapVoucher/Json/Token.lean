import BootstrapVoucher.Json.Number

/-!
# JSON tokens

A byte string is cut into tokens before its structure is looked at. Where no token can be read the
list ends with a broken one, which carries its fault: a reader of tokens meets the faults in the
order of the text.
-/

namespace BootstrapVoucher.Json

/-- The words that are values. -/
inductive Word
  | null
  | true
  | false
deriving DecidableEq, Repr

/-- A lexical unit of a JSON text. -/
inductive Token
  | openBrace
  | closeBrace
  | openBracket
  | closeBracket
  | comma
  | colon
  | word (w : Word)
  | number (n : Number)
  | string (s : String)
  /-- What is no token; `quoted` when it starts like a string. -/
  | broken (quoted : Bool) (fault : Fault)
deriving DecidableEq, Repr

/-- The insignificant bytes: space, line feed, tab and carriage return. -/
def isBlank (x : UInt8) : Bool := x == 32 || x == 10 || x == 9 || x == 13

def Word.spelling : Word → Bytes
  | .null => [110, 117, 108, 108]
  | .true => [116, 114, 117, 101]
  | .false => [102, 97, 108, 115, 101]

def hex4? (a b c d : UInt8) : Option Nat := do
  return (((← Bytes.hexValue? a) * 16 + (← Bytes.hexValue? b)) * 16 + (← Bytes.hexValue? c)) * 16 +
    (← Bytes.hexValue? d)

def escapeValue? (x : UInt8) : Option UInt8 :=
  if x = 34 ∨ x = 92 ∨ x = 47 then some x
  else if x = 98 then some 8
  else if x = 102 then some 12
  else if x = 110 then some 10
  else if x = 114 then some 13
  else if x = 116 then some 9
  else none

/-- The first and the second half of the 16-bit code units that come in pairs. -/
def isHighSurrogate (n : Nat) : Bool := 0xD800 ≤ n && n ≤ 0xDBFF

@[inherit_doc isHighSurrogate]
def isLowSurrogate (n : Nat) : Bool := 0xDC00 ≤ n && n ≤ 0xDFFF

/-- The UTF-8 form of a code point. -/
def encodePoint (n : Nat) : Bytes := String.utf8EncodeChar (Char.ofNat n)

/-- Reads the bytes of a string up to its closing quotation mark. `high` is the first half of a pair
of escapes whose second half has not been read. -/
def scanString : (high : Option Nat) → Bytes → Except Fault (Bytes × Bytes)
  | none, 92 :: 117 :: a :: b :: c :: d :: rest =>
    match hex4? a b c d with
    | none => .error .badEscape
    | some n =>
      if isLowSurrogate n then .error .loneSurrogate
      else if isHighSurrogate n then scanString (some n) rest
      else (scanString none rest).map fun r => (encodePoint n ++ r.1, r.2)
  | some high, 92 :: 117 :: a :: b :: c :: d :: rest =>
    match hex4? a b c d with
    | none => .error .badEscape
    | some low =>
      if isLowSurrogate low then
        (scanString none rest).map fun r =>
          (encodePoint ((high - 0xD800) * 1024 + (low - 0xDC00) + 0x10000) ++ r.1, r.2)
      else .error .loneSurrogate
  | _, 92 :: 117 :: _ => .error .endInString
  | _, [92] => .error .endInString
  | _, [] => .error .endInString
  | some _, _ => .error .unpairedSurrogate
  | none, 92 :: x :: rest =>
    match escapeValue? x with
    | some y => (scanString none rest).map fun r => (y :: r.1, r.2)
    | none => .error .badEscape
  | none, 34 :: rest => .ok ([], rest)
  | none, x :: rest =>
    if x < 32 then .error .control
    else (scanString none rest).map fun r => (x :: r.1, r.2)

/-- Reads a string after its opening quotation mark. -/
def readString (s : Bytes) : Except Fault (String × Bytes) := do
  let (content, rest) ← scanString none s
  match Bytes.toText? content with
  | some text => .ok (text, rest)
  | none => .error .badUnicode

def readWord : (expected : Bytes) → Bytes → Except Fault Bytes
  | [], s => .ok s
  | _ :: _, [] => .error .endInValue
  | x :: expected, y :: s => if x = y then readWord expected s else .error .expectedWord

def punctuation? (x : UInt8) : Option Token :=
  if x = 123 then some .openBrace
  else if x = 125 then some .closeBrace
  else if x = 91 then some .openBracket
  else if x = 93 then some .closeBracket
  else if x = 44 then some .comma
  else if x = 58 then some .colon
  else none

def wordOf? (x : UInt8) : Option Word :=
  if x = 110 then some .null
  else if x = 116 then some .true
  else if x = 102 then some .false
  else none

/-- The token made of what was read, or the broken token of a fault; then nothing is left. -/
def tokenOf {α : Type} (token : α → Token) (isQuoted : Bool) : Except Fault (α × Bytes) → Token × Bytes
  | .ok (a, rest) => (token a, rest)
  | .error fault => (.broken isQuoted fault, [])

/-- The first token of a text that starts with the byte `x`, which is not blank, and goes on
with `s`. -/
def readToken (x : UInt8) (s : Bytes) : Token × Bytes :=
  match punctuation? x, wordOf? x with
  | some token, _ => (token, s)
  | none, some word => tokenOf .word false ((readWord word.spelling.tail s).map (word, ·))
  | none, none =>
    if x = 34 then tokenOf .string true (readString s)
    else if x = 45 then tokenOf .number false (Number.readUnsigned true s)
    else if (Text.digitValue? x).isSome then
      tokenOf .number false (Number.readUnsigned false (x :: s))
    else (.broken false .expectedValue, [])

theorem length_scanString {high : Option Nat} {s : Bytes} {r : Bytes × Bytes}
    (h : scanString high s = .ok r) : r.2.length ≤ s.length := by
  have shift : ∀ {x : Except Fault (Bytes × Bytes)} {f : Bytes → Bytes} {r : Bytes × Bytes} {n : Nat},
      (∀ {q : Bytes × Bytes}, x = .ok q → q.2.length ≤ n) →
      (x.map fun q => (f q.1, q.2)) = .ok r → r.2.length ≤ n := by
    intro x f r n ih h
    cases x with
    | error fault => cases h
    | ok q => cases h; exact ih (q := q) rfl
  fun_induction scanString high s generalizing r with
  | case1 => cases h
  | case2 => cases h
  | case3 a b c d rest n _ _ _ ih =>
    have := ih h
    simp only [List.length_cons]; omega
  | case4 a b c d rest n _ _ _ ih =>
    have := shift ih h
    simp only [List.length_cons]; omega
  | case5 => cases h
  | case6 high a b c d rest low _ _ ih =>
    have := shift ih h
    simp only [List.length_cons]; omega
  | case7 => cases h
  | case8 => cases h
  | case9 => cases h
  | case10 => cases h
  | case11 => cases h
  | case12 x rest y _ _ _ ih =>
    have := shift ih h
    simp only [List.length_cons]; omega
  | case13 => cases h
  | case14 => cases h; simp
  | case15 => cases h
  | case16 x rest _ _ _ _ _ _ ih =>
    have := shift ih h
    simp only [List.length_cons]; omega

theorem length_readString {s : Bytes} {r : String × Bytes} (h : readString s = .ok r) :
    r.2.length ≤ s.length := by
  unfold readString at h
  cases hs : scanString none s with
  | error fault => rw [hs] at h; cases h
  | ok q =>
    rw [hs] at h
    have bound := length_scanString hs
    change (match Bytes.toText? q.1 with
      | some text => (.ok (text, q.2) : Except Fault (String × Bytes))
      | none => .error .badUnicode) = .ok r at h
    split at h
    · cases h; exact bound
    · cases h

theorem length_readWord {expected s rest : Bytes} (h : readWord expected s = .ok rest) :
    rest.length ≤ s.length := by
  fun_induction readWord expected s with
  | case1 => cases h; exact Nat.le_refl _
  | case2 => cases h
  | case3 expected y s ih => exact Nat.le_succ_of_le (ih h)
  | case4 => cases h

theorem length_tokenOf {α : Type} {token : α → Token} {isQuoted : Bool}
    {read : Except Fault (α × Bytes)} {n : Nat} (h : ∀ r, read = .ok r → r.2.length ≤ n) :
    (tokenOf token isQuoted read).2.length ≤ n := by
  cases read with
  | ok r => exact h r rfl
  | error fault => exact Nat.zero_le n

/-- Reading a token leaves no more than what follows its first byte. -/
theorem length_readToken (x : UInt8) (s : Bytes) : (readToken x s).2.length ≤ s.length := by
  unfold readToken
  split
  · exact Nat.le_refl _
  · rename_i word _ _
    refine length_tokenOf fun r h => ?_
    cases hw : readWord word.spelling.tail s with
    | error fault => rw [hw] at h; cases h
    | ok rest => rw [hw] at h; cases h; exact length_readWord hw
  · split
    · exact length_tokenOf fun r h => length_readString h
    · split
      · exact length_tokenOf fun r h =>
          Nat.le_trans (Number.length_readUnsigned h) (Number.length_spanDigits s)
      · split
        · refine length_tokenOf fun r h => Nat.le_trans (Number.length_readUnsigned h) ?_
          rw [Number.spanDigits_cons ‹_›]
          exact Number.length_spanDigits s
        · exact Nat.zero_le _

/-- The tokens of a text. After a broken token nothing is read. -/
def lex : Bytes → List Token
  | [] => []
  | x :: s => if isBlank x then lex s else (readToken x s).1 :: lex (readToken x s).2
termination_by s => s.length
decreasing_by
  · simp
  · have := length_readToken x s
    simp only [List.length_cons]; omega

end BootstrapVoucher.Json
