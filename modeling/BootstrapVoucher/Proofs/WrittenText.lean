import BootstrapVoucher.Json.Text
import BootstrapVoucher.Proofs.DateAndTime
import BootstrapVoucher.Proofs.FileTree

/-!
# Written values are texts

Values are written byte by byte, but what is written is always the UTF-8 form of a text. A string is
made of the bytes of its characters, and escapes replace whole characters only: every byte of a
character of more than one byte is above the bytes that are escaped.
-/

namespace BootstrapVoucher.Proofs

open Json Json.Value

/-- A byte below 128 is a character of its own. -/
lemma utf8EncodeChar_low {x : UInt8} (hx : x < 128) :
    String.utf8EncodeChar (Char.ofNat x.toNat) = [x] := by
  have low : x.toNat ≤ 127 := Nat.le_of_lt_succ hx
  have isChar : x.toNat.isValidChar := .inl (Nat.lt_of_le_of_lt low (by decide))
  have number : (Char.ofNat x.toNat).val.toNat = x.toNat := by
    have := Char.toNat_ofNat x.toNat
    rwa [if_pos isChar] at this
  unfold String.utf8EncodeChar
  dsimp only
  rw [number, if_pos low, UInt8.ofNat_toNat]

def IsText (b : Bytes) : Prop := ∃ s, Bytes.ofText s = b

namespace IsText

lemma nil : IsText [] := ⟨"", rfl⟩

lemma append {a b : Bytes} (ha : IsText a) (hb : IsText b) : IsText (a ++ b) := by
  obtain ⟨s, rfl⟩ := ha
  obtain ⟨t, rfl⟩ := hb
  exact ⟨s ++ t, ofText_append s t⟩

lemma char (c : Char) : IsText (String.utf8EncodeChar c) := by
  refine ⟨String.ofList [c], ?_⟩
  rw [ofText_ofList, List.flatMap_singleton]

lemma cons {x : UInt8} {b : Bytes} (hb : IsText b) (hx : x < 128 := by decide) : IsText (x :: b) := by
  have encoded := char (Char.ofNat x.toNat)
  rw [utf8EncodeChar_low hx] at encoded
  exact encoded.append hb

lemma ascii {b : Bytes} (h : ∀ x ∈ b, x < 128) : IsText b := by
  induction b with
  | nil => exact nil
  | cons x b ih => exact (ih fun y hy => h y (List.mem_cons_of_mem x hy)).cons (h x List.mem_cons_self)

end IsText

/-! ### Escapes -/

lemma escapeByte_low {x : UInt8} (hx : x < 128) : ∀ y ∈ escapeByte x, y < 128 := by
  have h : ∀ n : Fin 128, (escapeByte (UInt8.ofNat n)).all (· < 128) = true := by decide +kernel
  have hn : x.toNat < 128 := hx
  simpa using h ⟨x.toNat, hn⟩

lemma escapeByte_high {x : UInt8} (hx : 128 ≤ x) : escapeByte x = [x] := by
  have h : ∀ n : Fin 256, 128 ≤ n.val → escapeByte (UInt8.ofNat n) = [UInt8.ofNat n] := by decide +kernel
  have hn : 128 ≤ x.toNat := hx
  simpa using h ⟨x.toNat, x.toNat_lt⟩ hn

/-- A character is one low byte, or all its bytes are high. -/
lemma utf8EncodeChar_cases (c : Char) :
    (∃ x, String.utf8EncodeChar c = [x] ∧ x < 128) ∨ ∀ x ∈ String.utf8EncodeChar c, 128 ≤ x := by
  have high : ∀ n, 128 ≤ n → n < 256 → (128 : UInt8) ≤ UInt8.ofNat n := by
    intro n low above
    rw [UInt8.le_iff_toNat_le, UInt8.toNat_ofNat_of_lt' above]
    exact low
  unfold String.utf8EncodeChar
  dsimp only
  split_ifs with h
  · refine .inl ⟨_, rfl, ?_⟩
    rw [UInt8.lt_iff_toNat_lt, UInt8.toNat_ofNat_of_lt' (Nat.lt_of_le_of_lt h (by decide))]
    exact Nat.lt_succ_of_le h
  all_goals
    right
    intro x hx
    simp only [List.mem_cons, List.not_mem_nil, or_false] at hx
  · rcases hx with rfl | rfl <;> apply high <;> omega
  · rcases hx with rfl | rfl | rfl <;> apply high <;> omega
  · rcases hx with rfl | rfl | rfl | rfl <;> apply high <;> omega

lemma isText_escapedChar (c : Char) : IsText ((String.utf8EncodeChar c).flatMap escapeByte) := by
  rcases utf8EncodeChar_cases c with ⟨x, h, low⟩ | high
  · rw [h, List.flatMap_singleton]
    exact .ascii (escapeByte_low low)
  · have plain : (String.utf8EncodeChar c).flatMap escapeByte =
        (String.utf8EncodeChar c).flatMap fun x => [x] :=
      List.flatMap_congr fun x hx => escapeByte_high (high x hx)
    rw [plain, List.flatMap_singleton']
    exact .char c

lemma isText_escaped (cs : List Char) :
    IsText ((cs.flatMap String.utf8EncodeChar).flatMap escapeByte) := by
  induction cs with
  | nil => exact .nil
  | cons c cs ih =>
    rw [List.flatMap_cons, List.flatMap_append]
    exact (isText_escapedChar c).append ih

lemma isText_stringText (s : String) : IsText (stringText s) := by
  have escaped := isText_escaped s.toList
  rw [← ofText_ofList, String.ofList_toList] at escaped
  exact escaped.cons.append IsText.nil.cons

/-! ### Values -/

lemma isText_spelling (w : Word) : IsText w.spelling := by
  cases w with
  | null => exact IsText.nil.cons.cons.cons.cons
  | true => exact IsText.nil.cons.cons.cons.cons
  | false => exact IsText.nil.cons.cons.cons.cons.cons

lemma isText_lineBreak (depth : Option Nat) : IsText (lineBreak depth) := by
  cases depth with
  | none => exact .nil
  | some depth =>
    refine IsText.cons (.ascii fun x hx => ?_)
    rw [List.eq_of_mem_replicate hx]
    decide

/-- The name of a member, with the colon and the blank that follow it. -/
lemma isText_named (depth : Option Nat) (name : String) {b : Bytes} (hb : IsText b) :
    IsText (stringText name ++ 58 :: (if depth.isSome then [32] else []) ++ b) := by
  have gap : IsText (if depth.isSome then [32] else []) := by
    split
    · exact IsText.nil.cons
    · exact .nil
  exact ((isText_stringText name).append gap.cons).append hb

mutual

/-- What is written of a value is a text, in every layout. -/
theorem isText_write (depth : Option Nat) (v : Value) : IsText (write depth v) := by
  match v with
  | .null => exact isText_spelling .null
  | .bool true => exact isText_spelling .true
  | .bool false => exact isText_spelling .false
  | .number n => exact ⟨_, rfl⟩
  | .string s => exact isText_stringText s
  | .array [] => exact IsText.nil.cons.cons
  | .array (item :: items) =>
    have content := ((isText_lineBreak (depth.map (· + 1))).cons (x := 91)).append
      (isText_write (depth.map (· + 1)) item)
    exact ((content.append (isText_writeItems _ items)).append (isText_lineBreak _)).append
      IsText.nil.cons
  | .object [] => exact IsText.nil.cons.cons
  | .object ((name, v) :: members) =>
    have content := ((isText_lineBreak (depth.map (· + 1))).cons (x := 123)).append
      (isText_named (depth.map (· + 1)) name (isText_write (depth.map (· + 1)) v))
    have closed := ((content.append (isText_writeMembers (depth.map (· + 1)) members)).append
      (isText_lineBreak depth)).append (IsText.nil.cons (x := 125))
    rw [write]
    simpa using closed

theorem isText_writeItems (depth : Option Nat) (items : List Value) :
    IsText (writeItems depth items) := by
  match items with
  | [] => exact .nil
  | item :: items =>
    exact ((isText_lineBreak depth).cons.append (isText_write depth item)).append
      (isText_writeItems depth items)

theorem isText_writeMembers (depth : Option Nat) (members : List (String × Value)) :
    IsText (writeMembers depth members) := by
  match members with
  | [] => exact .nil
  | (name, v) :: members =>
    have content := ((isText_lineBreak depth).cons (x := 44)).append
      (isText_named depth name (isText_write depth v))
    rw [writeMembers]
    simpa using content.append (isText_writeMembers depth members)

end

end BootstrapVoucher.Proofs
