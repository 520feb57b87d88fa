import BootstrapVoucher.Proofs.JsonNumber
import BootstrapVoucher.Proofs.JsonText

/-!
# Tokens and their spellings

A text is cut into tokens, none of them broken, exactly when it is made of spellings of these tokens,
in their order, with blanks anywhere between them. Only after a number it matters what comes next,
because that could belong to the number.
-/

namespace BootstrapVoucher.Proofs

open Json

/-! ### Strings -/

/-- The ways to write bytes between quotation marks, where the first half of a pair of numbered
escapes may have been written already. -/
inductive SpellsText : (high : Option Nat) → (content spelling : Bytes) → Prop
  | nil : SpellsText none [] []
  | plain {x : UInt8} {content spelling : Bytes} (hback : x ≠ 92) (hquote : x ≠ 34) (hctrl : ¬x < 32)
    (h : SpellsText none content spelling) : SpellsText none (x :: content) (x :: spelling)
  | letter {x y : UInt8} {content spelling : Bytes} (hx : escapeValue? x = some y)
    (h : SpellsText none content spelling) : SpellsText none (y :: content) (92 :: x :: spelling)
  | code {a b c d : UInt8} {n : Nat} {content spelling : Bytes} (hn : hex4? a b c d = some n)
    (hlow : isLowSurrogate n = false) (hhigh : isHighSurrogate n = false)
    (h : SpellsText none content spelling) :
    SpellsText none (encodePoint n ++ content) (92 :: 117 :: a :: b :: c :: d :: spelling)
  | high {a b c d : UInt8} {n : Nat} {content spelling : Bytes} (hn : hex4? a b c d = some n)
    (hlow : isLowSurrogate n = false) (hhigh : isHighSurrogate n = true)
    (h : SpellsText (some n) content spelling) :
    SpellsText none content (92 :: 117 :: a :: b :: c :: d :: spelling)
  | low {a b c d : UInt8} {high n : Nat} {content spelling : Bytes} (hn : hex4? a b c d = some n)
    (hlow : isLowSurrogate n = true) (h : SpellsText none content spelling) :
    SpellsText (some high)
      (encodePoint ((high - 0xD800) * 1024 + (n - 0xDC00) + 0x10000) ++ content)
      (92 :: 117 :: a :: b :: c :: d :: spelling)

lemma scanString_spelled {high : Option Nat} {content spelling : Bytes}
    (h : SpellsText high content spelling) (rest : Bytes) :
    scanString high (spelling ++ 34 :: rest) = .ok (content, rest) := by
  induction h with
  | nil => rw [List.nil_append, scanString]
  | plain hback hquote hctrl _ ih =>
    rw [List.cons_append, scanString_plain hback hquote hctrl, ih]
    rfl
  | @letter x y _ _ hx _ ih =>
    have hu : x ≠ 117 := by
      rintro rfl
      cases hx
    rw [List.cons_append, List.cons_append, scanString_letter hu hx, ih]
    rfl
  | code hn hlow hhigh _ ih =>
    simp only [List.cons_append]
    rw [scanString, hn]
    simp only [hlow, hhigh, Bool.false_eq_true, if_false, ih]
    rfl
  | high hn hlow hhigh _ ih =>
    simp only [List.cons_append]
    rw [scanString, hn]
    simp only [hlow, hhigh, Bool.false_eq_true, if_false, if_true, ih]
  | low hn hlow _ ih =>
    simp only [List.cons_append]
    rw [scanString, hn]
    simp only [hlow, if_true, ih]
    rfl

lemma spelled_of_scanString {high : Option Nat} {s content rest : Bytes}
    (h : scanString high s = .ok (content, rest)) :
    ∃ spelling, SpellsText high content spelling ∧ s = spelling ++ 34 :: rest := by
  fun_induction scanString high s generalizing content with
  | case1 => cases h
  | case2 => cases h
  | case3 a b c d s n hn hlow hhigh ih =>
    have hlow' : isLowSurrogate n = false := by simpa using hlow
    obtain ⟨spelling, spelled, rfl⟩ := ih h
    exact ⟨_, .high hn hlow' hhigh spelled, rfl⟩
  | case4 a b c d s n hn hlow hhigh ih =>
    obtain ⟨⟨tail, rest'⟩, scanned, heq⟩ := map_eq_ok.mp h
    obtain ⟨rfl, rfl⟩ := Prod.mk.inj heq
    obtain ⟨spelling, spelled, rfl⟩ := ih scanned
    exact ⟨_, .code hn (by simpa using hlow) (by simpa using hhigh) spelled, rfl⟩
  | case5 => cases h
  | case6 high a b c d s low hn hlow ih =>
    obtain ⟨⟨tail, rest'⟩, scanned, heq⟩ := map_eq_ok.mp h
    obtain ⟨rfl, rfl⟩ := Prod.mk.inj heq
    obtain ⟨spelling, spelled, rfl⟩ := ih scanned
    exact ⟨_, .low hn hlow spelled, rfl⟩
  | case7 => cases h
  | case8 => cases h
  | case9 => cases h
  | case10 => cases h
  | case11 => cases h
  | case12 x s hu _ y hx ih =>
    obtain ⟨⟨tail, rest'⟩, scanned, heq⟩ := map_eq_ok.mp h
    obtain ⟨rfl, rfl⟩ := Prod.mk.inj heq
    obtain ⟨spelling, spelled, rfl⟩ := ih scanned
    exact ⟨_, .letter hx spelled, rfl⟩
  | case13 => cases h
  | case14 s =>
    cases h
    exact ⟨[], .nil, rfl⟩
  | case15 => cases h
  | case16 x s _ _ atEnd escaped hquote hctrl ih =>
    have hback : x ≠ 92 := by
      rintro rfl
      cases s with
      | nil => exact atEnd rfl rfl
      | cons y s => exact escaped y s rfl rfl
    obtain ⟨⟨tail, rest'⟩, scanned, heq⟩ := map_eq_ok.mp h
    obtain ⟨rfl, rfl⟩ := Prod.mk.inj heq
    obtain ⟨spelling, spelled, rfl⟩ := ih scanned
    exact ⟨_, .plain hback hquote hctrl spelled, rfl⟩

lemma readString_eq_ok {s rest : Bytes} {text : String} : readString s = .ok (text, rest) ↔
    ∃ spelling, SpellsText none (Bytes.ofText text) spelling ∧ s = spelling ++ 34 :: rest := by
  unfold readString
  constructor
  · intro h
    obtain ⟨⟨content, rest'⟩, scanned, h⟩ := bind_eq_ok.mp h
    simp only at h
    split at h
    · rename_i found
      cases h
      rw [Bytes.ofText_of_toText? found]
      exact spelled_of_scanString scanned
    · cases h
  · rintro ⟨spelling, spelled, rfl⟩
    rw [scanString_spelled spelled, ok_bind]
    simp only [Bytes.toText?_ofText]

/-! ### Tokens -/

inductive Spells : Token → Bytes → Prop
  | punctuation {x : UInt8} {t : Token} (h : punctuation? x = some t) : Spells t [x]
  | word (w : Word) : Spells (.word w) w.spelling
  | number {n : Number} {spelling : Bytes} (h : readNumber spelling = .ok (n, [])) :
    Spells (.number n) spelling
  | string {s : String} {spelling : Bytes} (h : SpellsText none (Bytes.ofText s) spelling) :
    Spells (.string s) (34 :: spelling ++ [34])

/-- The texts in which these tokens stand one after another, with blanks anywhere between them. -/
inductive Layout : List Token → Bytes → Prop
  | done : Layout [] []
  | blank {x : UInt8} {ts : List Token} {s : Bytes} (hx : isBlank x = true) (h : Layout ts s) :
    Layout ts (x :: s)
  | token {t : Token} {spelling : Bytes} {ts : List Token} {s : Bytes} (spelled : Spells t spelling)
    (ends : (∃ n, t = .number n) → goesOn s = false) (h : Layout ts s) :
    Layout (t :: ts) (spelling ++ s)

lemma digit_range {x : UInt8} (hx : (Text.digitValue? x).isSome = true) : 48 ≤ x ∧ x ≤ 57 := by
  unfold Text.digitValue? at hx
  split at hx
  · rename_i range
    simpa using range
  · cases hx

/-- A byte that starts a number starts nothing else. -/
lemma readToken_number {x : UInt8} (hx : x = 45 ∨ (Text.digitValue? x).isSome = true) (s : Bytes) :
    isBlank x = false ∧ readToken x s = tokenOf .number false (readNumber (x :: s)) := by
  rcases hx with rfl | hx
  · exact ⟨rfl, rfl⟩
  have apart : ∀ y : UInt8, y < 48 ∨ 57 < y → x ≠ y := by
    rintro y hy rfl
    have range := digit_range hx
    simp only [UInt8.lt_iff_toNat_lt, UInt8.le_iff_toNat_le] at hy range
    omega
  have hsign : readNumber (x :: s) = Number.readUnsigned false (x :: s) := by
    rw [readNumber]
    rintro _ ⟨⟩
    exact apart 45 (by decide) rfl
  have hblank : isBlank x = false := by
    simp [isBlank, apart]
  refine ⟨hblank, ?_⟩
  rw [hsign]
  simp [readToken, punctuation?, wordOf?, apart, hx]

lemma startsWithDigit_of_readUnsigned {isNegative : Bool} {s : Bytes} {r : Number × Bytes}
    (h : Number.readUnsigned isNegative s = .ok r) : startsWithDigit s = true := by
  by_contra hs
  have digitless : ∀ x ∈ ([] : Bytes), (Text.digitValue? x).isSome = true := by simp
  have nothing := spanDigits_append digitless (Bool.eq_false_iff.mpr hs)
  rw [List.nil_append, List.filterMap_nil] at nothing
  unfold Number.readUnsigned at h
  rw [nothing] at h
  cases s <;> cases h

lemma readNumber_front {s rest : Bytes} {n : Number} (h : readNumber s = .ok (n, rest)) :
    ReadsFront readNumber s n rest ∧
      ∃ x tail, s = x :: tail ∧ (x = 45 ∨ (Text.digitValue? x).isSome = true) := by
  unfold readNumber at h
  split at h
  · rename_i tail
    obtain ⟨ended, x, front, rfl, reads⟩ := readUnsigned_front h
    exact ⟨⟨ended, 45, x :: front, rfl, reads⟩, 45, _, rfl, .inl rfl⟩
  · rename_i unsigned
    obtain ⟨ended, x, front, rfl, reads⟩ := readUnsigned_front h
    refine ⟨⟨ended, x, front, rfl, fun t ht => ?_⟩,
      x, _, rfl, .inr (startsWithDigit_of_readUnsigned h)⟩
    rw [← reads t ht, List.cons_append, readNumber]
    rintro _ ⟨⟩
    exact unsigned _ rfl

lemma punctuation_plain {x : UInt8} {t : Token} (h : punctuation? x = some t) :
    isBlank x = false ∧ ∀ n, t ≠ .number n := by
  unfold punctuation? at h
  split_ifs at h <;> cases h <;> subst x <;> exact ⟨rfl, by simp⟩

lemma lex_spelled {t : Token} {spelling s : Bytes} (h : Spells t spelling)
    (ends : (∃ n, t = .number n) → goesOn s = false) : lex (spelling ++ s) = t :: lex s := by
  cases h with
  | punctuation h => exact lex_punctuation (punctuation_plain h).1 h s
  | word w => exact lex_word w s
  | @number n spelling h =>
    obtain ⟨⟨-, x, front, heq, reads⟩, y, tail, rfl, hy⟩ := readNumber_front h
    rw [List.append_nil] at heq
    obtain ⟨rfl, rfl⟩ := List.cons.inj heq
    obtain ⟨hblank, hread⟩ := readToken_number hy (tail ++ s)
    rw [List.cons_append, lex_token hblank, hread, ← List.cons_append, reads s (ends ⟨n, rfl⟩)]
    rfl
  | @string text spelling h =>
    have hread : readString (spelling ++ 34 :: s) = .ok (text, s) :=
      readString_eq_ok.mpr ⟨spelling, h, rfl⟩
    rw [List.cons_append, List.cons_append, lex_token rfl, List.append_assoc]
    simp [readToken, punctuation?, wordOf?, hread, tokenOf]

lemma readWord_eq_ok {expected s rest : Bytes} (h : readWord expected s = .ok rest) :
    s = expected ++ rest := by
  fun_induction readWord expected s with
  | case1 => cases h; rfl
  | case2 => cases h
  | case3 expected y s ih => rw [ih h, List.cons_append]
  | case4 => cases h

lemma wordOf?_eq_some {x : UInt8} {w : Word} (h : wordOf? x = some w) :
    w.spelling = x :: w.spelling.tail := by
  unfold wordOf? at h
  split_ifs at h <;> cases h <;> subst x <;> rfl

def IsBroken (t : Token) : Prop := ∃ quoted fault, t = .broken quoted fault

/-- A token that is read is spelled by what was read. -/
lemma spelled_of_readToken {x : UInt8} {s : Bytes} (h : ¬IsBroken (readToken x s).1) :
    ∃ spelling, Spells (readToken x s).1 spelling ∧ x :: s = spelling ++ (readToken x s).2 ∧
      ((∃ n, (readToken x s).1 = .number n) → startsWithDigit (readToken x s).2 = false) := by
  by_cases number : x = 45 ∨ (Text.digitValue? x).isSome = true
  · rw [(readToken_number number s).2] at h ⊢
    cases hread : readNumber (x :: s) with
    | error fault =>
      rw [hread] at h
      exact absurd ⟨_, _, rfl⟩ h
    | ok r =>
      obtain ⟨n, rest⟩ := r
      obtain ⟨⟨ended, y, front, heq, reads⟩, -⟩ := readNumber_front hread
      have whole := reads [] rfl
      rw [List.append_nil] at whole
      exact ⟨y :: front, .number whole, heq, fun _ => ended⟩
  rw [not_or] at number
  unfold readToken at h ⊢
  cases hp : punctuation? x with
  | some t =>
    refine ⟨[x], .punctuation hp, rfl, ?_⟩
    rintro ⟨n, hn⟩
    exact absurd hn ((punctuation_plain hp).2 n)
  | none =>
    cases hw : wordOf? x with
    | some w =>
      simp only [hp, hw] at h ⊢
      cases hread : readWord w.spelling.tail s with
      | error fault =>
        rw [hread] at h
        exact absurd ⟨_, _, rfl⟩ h
      | ok rest =>
        refine ⟨w.spelling, .word w, ?_, ?_⟩
        · rw [wordOf?_eq_some hw, readWord_eq_ok hread]
          rfl
        · rintro ⟨n, ⟨⟩⟩
    | none =>
      simp only [hp, hw, if_neg number.1, if_neg number.2] at h ⊢
      by_cases quote : x = 34
      · subst quote
        rw [if_pos rfl] at h ⊢
        cases hread : readString s with
        | error fault =>
          rw [hread] at h
          exact absurd ⟨_, _, rfl⟩ h
        | ok r =>
          obtain ⟨text, rest⟩ := r
          obtain ⟨spelling, spelled, rfl⟩ := readString_eq_ok.mp hread
          refine ⟨34 :: spelling ++ [34], .string spelled, by simp [tokenOf], ?_⟩
          rintro ⟨n, ⟨⟩⟩
      · rw [if_neg quote] at h
        exact absurd ⟨_, _, rfl⟩ h

/-- Where a number would go on, no token starts. -/
lemma lex_continues {s : Bytes} (h : Number.continues s = true) : ∃ t ∈ lex s, IsBroken t := by
  cases s with
  | nil => cases h
  | cons x s =>
    rcases continues_cons.mp h with rfl | rfl | rfl <;>
    · rw [lex_token rfl]
      exact ⟨_, List.mem_cons_self .., _, _, rfl⟩

/-- A text that has no broken token is laid out as its tokens. -/
lemma layout_of_lex {s : Bytes} (h : ∀ t ∈ lex s, ¬IsBroken t) : Layout (lex s) s := by
  fun_induction lex s with
  | case1 => exact .done
  | case2 x s hx ih => exact .blank hx (ih h)
  | case3 x s hx ih =>
    obtain ⟨spelling, spelled, heq, ended⟩ := spelled_of_readToken (h _ (List.mem_cons_self ..))
    have others : ∀ t ∈ lex (readToken x s).2, ¬IsBroken t :=
      fun t ht => h t (List.mem_cons_of_mem _ ht)
    rw [heq]
    refine .token spelled (fun isNumber => ?_) (ih others)
    have stops : Number.continues (readToken x s).2 = false := by
      by_contra hcontinues
      obtain ⟨t, ht, broken⟩ := lex_continues (by simpa using hcontinues)
      exact others t ht broken
    simp [goesOn, stops, ended isNumber]

lemma lex_of_layout {ts : List Token} {s : Bytes} (h : Layout ts s) : lex s = ts := by
  induction h with
  | done => rw [lex]
  | blank hx _ ih => rw [lex_blank hx, ih]
  | token spelled ends _ ih => rw [lex_spelled spelled ends, ih]

lemma goesOn_append {s : Bytes} (hs : s ≠ []) (t : Bytes) : goesOn (s ++ t) = goesOn s := by
  obtain ⟨x, s, rfl⟩ := List.exists_cons_of_ne_nil hs
  rfl

/-- What follows a text that does not end with a number is cut into tokens on its own. -/
lemma lex_append {ts : List Token} {s : Bytes} (h : Layout ts s)
    (last : ∀ n, ts.getLast? ≠ some (.number n)) (t : Bytes) : lex (s ++ t) = ts ++ lex t := by
  induction h with
  | done => rfl
  | blank hx _ ih => rw [List.cons_append, lex_blank hx, ih last]
  | @token first spelling ts s spelled ends h ih =>
    rw [List.append_assoc, lex_spelled spelled, ih, List.cons_append]
    · intro n hn
      cases ts with
      | nil => cases hn
      | cons u ts => exact last n (by rwa [List.getLast?_cons_cons])
    · rintro ⟨n, rfl⟩
      have hs : s ≠ [] := by
        rintro rfl
        have nothing := lex_of_layout h
        rw [lex] at nothing
        rw [← nothing] at last
        exact last n rfl
      rw [goesOn_append hs]
      exact ends ⟨n, rfl⟩

/-- Exactly the blank texts have no tokens. -/
lemma lex_eq_nil {s : Bytes} : lex s = [] ↔ s.all isBlank = true := by
  induction s with
  | nil => simp [lex]
  | cons x s ih =>
    cases hx : isBlank x with
    | true => rw [lex_blank hx, ih, List.all_cons, hx, Bool.true_and]
    | false => simp [lex_token hx, hx]

end BootstrapVoucher.Proofs
