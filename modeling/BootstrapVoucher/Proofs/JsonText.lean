import BootstrapVoucher.Json.Text
import BootstrapVoucher.Proofs.Outcome

/-!
# Written values read back

A value without numbers is written as a sequence of tokens, with or without line breaks between
them, and the machine that reads tokens rebuilds the value from them. The two halves meet in
`tokens`, so neither needs to know the other: cutting the text into tokens forgets the layout, and
the machine never sees it. Strings may hold any text.
-/

namespace BootstrapVoucher.Proofs

open Json Json.Value

/-! ### Strings -/

lemma scanString_plain {x : UInt8} (hback : x ≠ 92) (hquote : x ≠ 34) (hctrl : ¬x < 32) (s : Bytes) :
    scanString none (x :: s) = (scanString none s).map fun r => (x :: r.1, r.2) := by
  rw [scanString]
  · rw [if_neg hctrl]
  all_goals simp_all

lemma scanString_letter {x y : UInt8} (hx : x ≠ 117) (hy : escapeValue? x = some y) (s : Bytes) :
    scanString none (92 :: x :: s) = (scanString none s).map fun r => (y :: r.1, r.2) := by
  rw [scanString]
  · rw [hy]
  all_goals simp_all

lemma scanString_hex {a b c d : UInt8} {n : Nat} (hn : hex4? a b c d = some n) (h : n < 0xD800)
    (s : Bytes) :
    scanString none (92 :: 117 :: a :: b :: c :: d :: s) =
      (scanString none s).map fun r => (encodePoint n ++ r.1, r.2) := by
  have hlow : isLowSurrogate n = false := by
    simp [isLowSurrogate]
    omega
  have hhigh : isHighSurrogate n = false := by
    simp [isHighSurrogate]
    omega
  rw [scanString, hn]
  simp [hlow, hhigh]

/-- The numbered escapes of the controls name them. -/
lemma hex4_control {x : UInt8} (hx : x < 32) :
    hex4? 48 48 (if x < 16 then 48 else 49) (if x % 16 < 10 then 48 + x % 16 else 87 + x % 16) =
      some x.toNat ∧ encodePoint x.toNat = [x] := by
  have h : ∀ n : Fin 32,
      hex4? 48 48 (if UInt8.ofNat n < 16 then 48 else 49)
        (if UInt8.ofNat n % 16 < 10 then 48 + UInt8.ofNat n % 16 else 87 + UInt8.ofNat n % 16) =
          some (UInt8.ofNat n).toNat ∧
        encodePoint (UInt8.ofNat n).toNat = [UInt8.ofNat n] := by
    decide
  have hn : x.toNat < 32 := hx
  simpa using h ⟨x.toNat, hn⟩

/-- A byte is written by a letter, by its number or as it is. -/
lemma escapeByte_cases (x : UInt8) :
    (∃ y, escapeByte x = [92, y] ∧ y ≠ 117 ∧ escapeValue? y = some x) ∨
    (x < 32 ∧ ∃ c d, escapeByte x = [92, 117, 48, 48, c, d] ∧ hex4? 48 48 c d = some x.toNat) ∨
    (escapeByte x = [x] ∧ x ≠ 92 ∧ x ≠ 34 ∧ ¬x < 32) := by
  by_cases letter : x = 34 ∨ x = 92 ∨ x = 8 ∨ x = 9 ∨ x = 10 ∨ x = 12 ∨ x = 13
  · rcases letter with rfl | rfl | rfl | rfl | rfl | rfl | rfl <;>
      exact .inl ⟨_, rfl, by decide, rfl⟩
  simp only [not_or] at letter
  by_cases hctrl : x < 32
  · refine .inr (.inl ⟨hctrl, _, _, ?_, (hex4_control hctrl).1⟩)
    simp [escapeByte, letter, hctrl]
  · refine .inr (.inr ⟨?_, letter.2.1, letter.1, hctrl⟩)
    simp [escapeByte, letter, hctrl]

/-- Reading undoes the escape of a single byte. -/
lemma scanString_escapeByte (x : UInt8) (s : Bytes) :
    scanString none (escapeByte x ++ s) = (scanString none s).map fun r => (x :: r.1, r.2) := by
  rcases escapeByte_cases x with ⟨y, h, hy, value⟩ | ⟨hctrl, c, d, h, hex⟩ | ⟨h, hback, hquote, hctrl⟩
  · rw [h]
    exact scanString_letter hy value s
  · have hn : x.toNat < 32 := hctrl
    have hscan := scanString_hex hex (by omega) s
    rw [(hex4_control hctrl).2] at hscan
    rw [h]
    exact hscan
  · rw [h]
    exact scanString_plain hback hquote hctrl s

lemma scanString_escaped (b s : Bytes) :
    scanString none (b.flatMap escapeByte ++ 34 :: s) = .ok (b, s) := by
  induction b with
  | nil =>
    rw [List.flatMap_nil, List.nil_append, scanString]
  | cons x b ih =>
    rw [List.flatMap_cons, List.append_assoc, scanString_escapeByte, ih]
    rfl

lemma readString_stringText (t : String) (s : Bytes) :
    readString ((Bytes.ofText t).flatMap escapeByte ++ 34 :: s) = .ok (t, s) := by
  unfold readString
  rw [scanString_escaped, ok_bind]
  simp only [Bytes.toText?_ofText]

/-! ### From text to tokens -/

lemma lex_blank {x : UInt8} (hx : isBlank x = true) (s : Bytes) : lex (x :: s) = lex s := by
  rw [lex, if_pos hx]

lemma lex_token {x : UInt8} (hx : isBlank x = false) (s : Bytes) :
    lex (x :: s) = (readToken x s).1 :: lex (readToken x s).2 := by
  rw [lex, if_neg (by simp [hx])]

lemma lex_punctuation {x : UInt8} {t : Token} (hx : isBlank x = false) (ht : punctuation? x = some t)
    (s : Bytes) : lex (x :: s) = t :: lex s := by
  rw [lex_token hx]
  simp [readToken, ht]

lemma lex_lineBreak (depth : Option Nat) (s : Bytes) : lex (lineBreak depth ++ s) = lex s := by
  have blanks : ∀ n, lex (List.replicate n 32 ++ s) = lex s := by
    intro n
    induction n with
    | zero => rfl
    | succ n ih => rw [List.replicate_succ, List.cons_append, lex_blank rfl, ih]
  cases depth with
  | none => rfl
  | some depth => rw [lineBreak, List.cons_append, lex_blank rfl, blanks]

/-- The blank that may follow a colon. -/
lemma lex_gap (depth : Option Nat) (s : Bytes) :
    lex ((if depth.isSome then [32] else []) ++ s) = lex s := by
  cases depth with
  | none => rfl
  | some depth => exact lex_blank rfl s

lemma readWord_spelling (expected s : Bytes) : readWord expected (expected ++ s) = .ok s := by
  induction expected with
  | nil => rfl
  | cons x expected ih => rw [List.cons_append, readWord, if_pos rfl, ih]

/-- A word is told by its first letter. -/
lemma spelling_head (w : Word) : ∃ x, w.spelling = x :: w.spelling.tail ∧ isBlank x = false ∧
    punctuation? x = none ∧ wordOf? x = some w := by
  cases w with
  | null => exact ⟨_, rfl, rfl, rfl, rfl⟩
  | true => exact ⟨_, rfl, rfl, rfl, rfl⟩
  | false => exact ⟨_, rfl, rfl, rfl, rfl⟩

lemma lex_word (w : Word) (s : Bytes) : lex (w.spelling ++ s) = .word w :: lex s := by
  obtain ⟨x, h, hblank, hpunctuation, hword⟩ := spelling_head w
  have hread : readToken x (w.spelling.tail ++ s) = (.word w, s) := by
    simp [readToken, hpunctuation, hword, readWord_spelling, Except.map, tokenOf]
  rw [h, List.cons_append, lex_token hblank, hread]

lemma lex_stringText (t : String) (s : Bytes) : lex (stringText t ++ s) = .string t :: lex s := by
  rw [stringText, List.cons_append, List.cons_append, lex_token rfl]
  simp [readToken, punctuation?, wordOf?, readString_stringText, tokenOf]

mutual

/-- The tokens of a value, whatever its layout. -/
def tokens : Value → List Token
  | .null => [.word .null]
  | .bool true => [.word .true]
  | .bool false => [.word .false]
  | .number n => [.number n]
  | .string s => [.string s]
  | .array [] => [.openBracket, .closeBracket]
  | .array (item :: items) => .openBracket :: (tokens item ++ (itemTokens items ++ [.closeBracket]))
  | .object [] => [.openBrace, .closeBrace]
  | .object ((name, v) :: members) =>
    .openBrace :: .string name :: .colon :: (tokens v ++ (memberTokens members ++ [.closeBrace]))

/-- The tokens of the items after the first one. -/
def itemTokens : List Value → List Token
  | [] => []
  | item :: items => .comma :: (tokens item ++ itemTokens items)

/-- The tokens of the members after the first one. -/
def memberTokens : List (String × Value) → List Token
  | [] => []
  | (name, v) :: members => .comma :: .string name :: .colon :: (tokens v ++ memberTokens members)

end

mutual

/-- Whether no number occurs in a value. -/
def isNumberFree : Value → Bool
  | .number _ => false
  | .array items => areNumberFree items
  | .object members => membersAreNumberFree members
  | _ => true

@[inherit_doc isNumberFree]
def areNumberFree : List Value → Bool
  | [] => true
  | item :: items => isNumberFree item && areNumberFree items

@[inherit_doc isNumberFree]
def membersAreNumberFree : List (String × Value) → Bool
  | [] => true
  | (_, v) :: members => isNumberFree v && membersAreNumberFree members

end

mutual

/-- Cutting a written value into tokens forgets its layout, and takes nothing of what follows. -/
theorem lex_write (depth : Option Nat) (v : Value) (hv : isNumberFree v = true) (s : Bytes) :
    lex (write depth v ++ s) = tokens v ++ lex s := by
  match v with
  | .null => exact lex_word .null s
  | .bool true => exact lex_word .true s
  | .bool false => exact lex_word .false s
  | .number n => simp [isNumberFree] at hv
  | .string t => exact lex_stringText t s
  | .array [] =>
    rw [write, List.cons_append, List.cons_append, lex_punctuation rfl rfl,
      lex_punctuation rfl rfl]
    rfl
  | .array (item :: items) =>
    simp only [isNumberFree, areNumberFree, Bool.and_eq_true] at hv
    simp only [write, tokens, List.cons_append, List.append_assoc, List.nil_append]
    rw [lex_punctuation rfl rfl, lex_lineBreak, lex_write _ item hv.1, lex_writeItems _ items hv.2,
      lex_lineBreak, lex_punctuation rfl rfl]
  | .object [] =>
    rw [write, List.cons_append, List.cons_append, lex_punctuation rfl rfl,
      lex_punctuation rfl rfl]
    rfl
  | .object ((name, v) :: members) =>
    simp only [isNumberFree, membersAreNumberFree, Bool.and_eq_true] at hv
    simp only [write, tokens, List.cons_append, List.append_assoc, List.nil_append]
    rw [lex_punctuation rfl rfl, lex_lineBreak, lex_stringText, lex_punctuation rfl rfl, lex_gap,
      lex_write _ v hv.1, lex_writeMembers _ members hv.2, lex_lineBreak, lex_punctuation rfl rfl]

theorem lex_writeItems (depth : Option Nat) (items : List Value)
    (hitems : areNumberFree items = true) (s : Bytes) :
    lex (writeItems depth items ++ s) = itemTokens items ++ lex s := by
  match items with
  | [] => rfl
  | item :: items =>
    simp only [areNumberFree, Bool.and_eq_true] at hitems
    simp only [writeItems, itemTokens, List.cons_append, List.append_assoc]
    rw [lex_punctuation rfl rfl, lex_lineBreak, lex_write _ item hitems.1,
      lex_writeItems _ items hitems.2]

theorem lex_writeMembers (depth : Option Nat) (members : List (String × Value))
    (hmembers : membersAreNumberFree members = true) (s : Bytes) :
    lex (writeMembers depth members ++ s) = memberTokens members ++ lex s := by
  match members with
  | [] => rfl
  | (name, v) :: members =>
    simp only [membersAreNumberFree, Bool.and_eq_true] at hmembers
    simp only [writeMembers, memberTokens, List.cons_append, List.append_assoc]
    rw [lex_punctuation rfl rfl, lex_lineBreak, lex_stringText, lex_punctuation rfl rfl, lex_gap,
      lex_write _ v hmembers.1, lex_writeMembers _ members hmembers.2]

end

/-! ### From tokens to the value -/

mutual

/-- How deep containers are nested in a value. -/
def nesting : Value → Nat
  | .array items => nestingOfItems items + 1
  | .object members => nestingOfMembers members + 1
  | _ => 0

@[inherit_doc nesting]
def nestingOfItems : List Value → Nat
  | [] => 0
  | item :: items => max (nesting item) (nestingOfItems items)

@[inherit_doc nesting]
def nestingOfMembers : List (String × Value) → Nat
  | [] => 0
  | (_, v) :: members => max (nesting v) (nestingOfMembers members)

end

/-- A value does not start with a closing bracket. -/
lemma tokens_head (v : Value) : ∃ t others, tokens v = t :: others ∧ t ≠ .closeBracket := by
  unfold tokens
  split <;> exact ⟨_, _, rfl, by simp⟩

lemma step_firstItem (v : Value) (frames : List Frame) (ts : List Token) :
    (tokens v ++ ts).foldlM State.step (.firstItem frames) =
      (tokens v ++ ts).foldlM State.step (.value (.array [] :: frames)) := by
  obtain ⟨t, others, h, ht⟩ := tokens_head v
  rw [h, List.cons_append, List.foldlM_cons, List.foldlM_cons]
  congr 1
  cases t <;> simp_all [State.step]

lemma step_nextItem (v : Value) (frames : List Frame) (items : List Value) (ts : List Token) :
    (tokens v ++ ts).foldlM State.step (.nextItem frames items) =
      (tokens v ++ ts).foldlM State.step (.value (.array items :: frames)) := by
  obtain ⟨t, others, h, ht⟩ := tokens_head v
  rw [h, List.cons_append, List.foldlM_cons, List.foldlM_cons]
  congr 1
  cases t <;> simp_all [State.step]

lemma finish_array (v : Value) (items : List Value) (frames : List Frame) :
    State.finish v (.array items :: frames) = .afterItem frames (v :: items) := rfl

lemma finish_object (v : Value) (members : List (String × Value)) (name : String)
    (frames : List Frame) :
    State.finish v (.object members name :: frames) = .afterMember frames ((name, v) :: members) := rfl

mutual

/-- The machine that expects a value reads the tokens of one, unless they are nested too deep. -/
theorem foldlM_tokens (v : Value) (frames : List Frame) (ts : List Token)
    (h : frames.length + nesting v < depthLimit) :
    (tokens v ++ ts).foldlM State.step (.value frames) =
      ts.foldlM State.step (State.finish v frames) := by
  match v with
  | .null => rfl
  | .bool true => rfl
  | .bool false => rfl
  | .number n => rfl
  | .string s => rfl
  | .array [] =>
    simp only [nesting, nestingOfItems, Nat.zero_add] at h
    simp only [tokens, List.cons_append, List.nil_append, List.foldlM_cons, State.step, State.start,
      if_pos h, ok_bind]
  | .array (item :: items) =>
    simp only [nesting, nestingOfItems] at h
    have hopen : frames.length + 1 < depthLimit := by omega
    simp only [tokens, List.cons_append, List.append_assoc, List.foldlM_cons, State.step, State.start,
      if_pos hopen, ok_bind]
    rw [step_firstItem, foldlM_tokens item _ _ (by simp only [List.length_cons]; omega),
      finish_array, foldlM_itemTokens items frames [item] _ (by omega)]
    simp [State.step, ok_bind]
  | .object [] =>
    simp only [nesting, nestingOfMembers, Nat.zero_add] at h
    simp only [tokens, List.cons_append, List.nil_append, List.foldlM_cons, State.step, State.start,
      if_pos h, ok_bind]
  | .object ((name, v) :: members) =>
    simp only [nesting, nestingOfMembers] at h
    have hopen : frames.length + 1 < depthLimit := by omega
    simp only [tokens, List.cons_append, List.append_assoc, List.foldlM_cons, State.step, State.start,
      State.name, if_pos hopen, ok_bind]
    rw [foldlM_tokens v _ _ (by simp only [List.length_cons]; omega), finish_object,
      foldlM_memberTokens members frames [(name, v)] _ (by omega)]
    simp [State.step, ok_bind]

theorem foldlM_itemTokens (items : List Value) (frames : List Frame) (done : List Value)
    (ts : List Token) (h : frames.length + 1 + nestingOfItems items < depthLimit) :
    (itemTokens items ++ ts).foldlM State.step (.afterItem frames done) =
      ts.foldlM State.step (.afterItem frames (items.reverse ++ done)) := by
  match items with
  | [] => rfl
  | item :: items =>
    simp only [nestingOfItems] at h
    simp only [itemTokens, List.cons_append, List.append_assoc, List.foldlM_cons, State.step, ok_bind]
    rw [step_nextItem, foldlM_tokens item _ _ (by simp only [List.length_cons]; omega),
      finish_array, foldlM_itemTokens items frames (item :: done) _ (by omega)]
    simp

theorem foldlM_memberTokens (members : List (String × Value)) (frames : List Frame)
    (done : List (String × Value)) (ts : List Token)
    (h : frames.length + 1 + nestingOfMembers members < depthLimit) :
    (memberTokens members ++ ts).foldlM State.step (.afterMember frames done) =
      ts.foldlM State.step (.afterMember frames (members.reverse ++ done)) := by
  match members with
  | [] => rfl
  | (name, v) :: members =>
    simp only [nestingOfMembers] at h
    simp only [memberTokens, List.cons_append, List.append_assoc, List.foldlM_cons, State.step,
      State.name, ok_bind]
    rw [foldlM_tokens v _ _ (by simp only [List.length_cons]; omega), finish_object,
      foldlM_memberTokens members frames ((name, v) :: done) _ (by omega)]
    simp

end

/-- A value without numbers that is not nested too deep is read back from its text, in either
layout. -/
theorem parse_write (depth : Option Nat) (v : Value) (hv : isNumberFree v = true)
    (hn : nesting v < depthLimit) : Value.parse (write depth v) = .ok v := by
  have hlex : lex (write depth v) = tokens v ++ [] := by
    have h := lex_write depth v hv []
    rwa [List.append_nil, lex] at h
  unfold Value.parse State.run
  rw [hlex, foldlM_tokens v [] [] (by simpa using hn)]
  rfl

end BootstrapVoucher.Proofs
