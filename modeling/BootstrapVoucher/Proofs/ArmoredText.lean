import BootstrapVoucher.Proofs.Armor

/-!
# Which texts are armoured certificates

A body is one or more lines of base64 characters, none of them empty, with single line feeds between
them. A text is stripped exactly when it is the header line, such a body and the footer line, with
one line feed behind it or none; and what is stripped is put back by framing it.
-/

namespace BootstrapVoucher.Proofs

open Armor

/-- The lines of a text are what stands between its line feeds; they may be empty. -/
structure HasLines (text : String) (parts : List String) : Prop where
  parts_ne : parts ≠ []
  unbroken : ∀ line ∈ parts, '\n' ∉ line.toList
  joined : text = "\n".intercalate parts

/-- The characters of base64 text: letters, digits, plus, slash, and the equals sign of the padding. -/
def IsBase64Char (c : Char) : Prop :=
  ('A' ≤ c ∧ c ≤ 'Z') ∨ ('a' ≤ c ∧ c ≤ 'z') ∨ ('0' ≤ c ∧ c ≤ '9') ∨ c = '+' ∨ c = '/' ∨ c = '='

/-- A text is made of lines: one at least, none of them empty, with single line feeds between them. -/
structure IsWrapped (text : String) (lines : List String) : Prop where
  lines_ne : lines ≠ []
  line_ne : ∀ line ∈ lines, line ≠ ""
  unbroken : ∀ line ∈ lines, '\n' ∉ line.toList
  joined : text = "\n".intercalate lines

/-- The body of an armoured certificate. -/
def IsBody (body : String) : Prop :=
  ∃ lines, IsWrapped body lines ∧ ∀ line ∈ lines, ∀ c ∈ line.toList, IsBase64Char c

/-- A text is the frame of a body, with one line feed behind it or none. -/
def IsFrameOf (text body : String) : Prop :=
  text = header ++ "\n" ++ body ++ "\n" ++ footer ∨
    text = header ++ "\n" ++ body ++ "\n" ++ footer ++ "\n"

/-! ### Lines -/

lemma lines_eq_splitOn (text : List Char) : lines text = text.splitOn '\n' := by
  induction text with
  | nil => rfl
  | cons c rest ih =>
    rw [lines, ih, List.splitOn_cons_eq_if_modifyHead]
    by_cases feed : c = '\n'
    · rw [if_pos feed, if_pos (beq_iff_eq.mpr feed)]
    · rw [if_neg feed, if_neg (by simpa using feed)]
      cases split : rest.splitOn '\n' with
      | nil => exact absurd split (List.splitOn_ne_nil _ _)
      | cons line others => rfl

lemma HasLines.lines_eq {text : String} {parts : List String} (h : HasLines text parts) :
    lines text.toList = parts.map String.toList := by
  have feed : "\n".toList = ['\n'] := rfl
  rw [lines_eq_splitOn, h.joined, String.toList_intercalate, feed]
  apply List.splitOn_intercalate
  · intro line hline
    obtain ⟨part, hpart, rfl⟩ := List.mem_map.mp hline
    exact h.unbroken part hpart
  · simpa using h.parts_ne

lemma lineFeed_notMem_lines {text line : List Char} (h : line ∈ lines text) : '\n' ∉ line := by
  induction text generalizing line with
  | nil =>
    rw [lines, List.mem_singleton] at h
    simp [h]
  | cons c rest ih =>
    rw [lines] at h
    split at h
    · rcases List.mem_cons.mp h with rfl | h
      · exact List.not_mem_nil
      · exact ih h
    · rename_i ordinary
      split at h
      · rw [List.mem_singleton] at h
        simp [h, Ne.symm ordinary]
      · rename_i first others split
        rcases List.mem_cons.mp h with rfl | h
        · have unbroken := ih (split ▸ List.mem_cons_self)
          simp [unbroken, Ne.symm ordinary]
        · exact ih (split ▸ List.mem_cons_of_mem _ h)

/-- Every text is made of its lines. -/
lemma hasLines_lines (text : String) : HasLines text ((lines text.toList).map String.ofList) where
  parts_ne := by
    rw [lines_eq_splitOn, Ne, List.map_eq_nil_iff]
    exact List.splitOn_ne_nil _ _
  unbroken := by
    intro line hline
    obtain ⟨chars, hchars, rfl⟩ := List.mem_map.mp hline
    rw [String.toList_ofList]
    exact lineFeed_notMem_lines hchars
  joined := by
    have feed : "\n".toList = ['\n'] := rfl
    have chars : ((lines text.toList).map String.ofList).map String.toList = lines text.toList := by
      simp
    rw [← String.toList_inj, String.toList_intercalate, chars, lines_eq_splitOn, feed,
      List.intercalate_splitOn]

/-- There is only one way to cut a text into lines. -/
lemma HasLines.unique {text : String} {parts others : List String} (h : HasLines text parts)
    (also : HasLines text others) : parts = others := by
  have same : parts.map String.toList = others.map String.toList := h.lines_eq.symm.trans also.lines_eq
  exact List.map_injective_iff.mpr (fun _ _ => String.toList_inj.mp) same

lemma IsWrapped.hasLines {text : String} {parts : List String} (h : IsWrapped text parts) :
    HasLines text parts :=
  ⟨h.lines_ne, h.unbroken, h.joined⟩

/-- A text without an empty line is wrapped. -/
lemma HasLines.isWrapped {text : String} {parts : List String} (h : HasLines text parts)
    (filled : ∀ line ∈ parts, line ≠ "") : IsWrapped text parts :=
  ⟨h.parts_ne, filled, h.unbroken, h.joined⟩

/-! ### Bodies without a fault -/

lemma isBodyChar_iff {c : Char} : isBodyChar c = true ↔ IsBase64Char c := by
  have upper : c.isUpper = true ↔ 'A' ≤ c ∧ c ≤ 'Z' := by
    rw [Char.isUpper, decide_eq_true_iff]
    rfl
  have lower : c.isLower = true ↔ 'a' ≤ c ∧ c ≤ 'z' := by
    rw [Char.isLower, Bool.and_eq_true, decide_eq_true_iff, decide_eq_true_iff]
    rfl
  have digit : c.isDigit = true ↔ '0' ≤ c ∧ c ≤ '9' := by
    rw [Char.isDigit, Bool.and_eq_true, decide_eq_true_iff, decide_eq_true_iff]
    rfl
  unfold isBodyChar IsBase64Char Char.isAlphanum Char.isAlpha
  simp only [Bool.or_eq_true, upper, lower, digit, beq_iff_eq, or_assoc]

lemma lineFault_eq_none {number : Nat} {line : List Char} :
    lineFault? number line = none ↔ line ≠ [] ∧ ∀ c ∈ line, IsBase64Char c := by
  unfold lineFault?
  cases line with
  | nil => simp
  | cons c rest => simp [isBodyChar_iff]

lemma linesFault_eq_none {number : Nat} {parts : List (List Char)} :
    linesFault? number parts = none ↔ ∀ line ∈ parts, line ≠ [] ∧ ∀ c ∈ line, IsBase64Char c := by
  induction parts generalizing number with
  | nil => simp [linesFault?]
  | cons line rest ih =>
    have first : lineFault? number line = none ↔ line ≠ [] ∧ ∀ c ∈ line, IsBase64Char c :=
      lineFault_eq_none
    have others : linesFault? (number + 1) rest = none ↔ _ := ih
    rw [linesFault?, List.forall_mem_cons, ← first, ← others]
    cases lineFault? number line with
    | none => simp
    | some fault => simp

lemma bodyFault_eq_linesFault {body : List Char} (h : body ≠ []) :
    bodyFault? body = linesFault? 0 (lines body) := by
  rw [bodyFault?, if_neg (by simpa using h)]

lemma bodyFault_eq_none {body : String} : bodyFault? body.toList = none ↔ IsBody body := by
  constructor
  · intro faultless
    have filled : body.toList ≠ [] := by
      intro empty
      rw [empty] at faultless
      cases faultless
    rw [bodyFault_eq_linesFault filled, linesFault_eq_none] at faultless
    refine ⟨_, (hasLines_lines body).isWrapped ?_, ?_⟩
    · intro line hline
      obtain ⟨chars, hchars, rfl⟩ := List.mem_map.mp hline
      simpa using (faultless chars hchars).1
    · intro line hline c hc
      obtain ⟨chars, hchars, rfl⟩ := List.mem_map.mp hline
      rw [String.toList_ofList] at hc
      exact (faultless chars hchars).2 c hc
  · rintro ⟨parts, wrapped, symbols⟩
    have sound : ∀ line ∈ lines body.toList, line ≠ [] ∧ ∀ c ∈ line, IsBase64Char c := by
      rw [wrapped.hasLines.lines_eq]
      intro line hline
      obtain ⟨part, hpart, rfl⟩ := List.mem_map.mp hline
      exact ⟨by simpa using wrapped.line_ne part hpart, symbols part hpart⟩
    have filled : body.toList ≠ [] := by
      intro empty
      have first := sound [] (by rw [empty]; exact List.mem_singleton_self _)
      exact first.1 rfl
    rw [bodyFault_eq_linesFault filled, linesFault_eq_none]
    exact sound

/-! ### Lines put together -/

lemma flatten_lines (text : List Char) : (lines text).flatten = text.filter (· != '\n') := by
  induction text with
  | nil => rfl
  | cons c rest ih =>
    rw [lines]
    by_cases feed : c = '\n'
    · simp [feed, ih]
    · rw [if_neg feed, List.filter_cons_of_pos (by simpa using feed), ← ih]
      cases lines rest <;> simp

/-- Where no line ends in a carriage return, the ends of the lines are their line feeds. -/
lemma flatten_endedLines {parts : List (List Char)} (h : ∀ line ∈ parts, '\r' ∉ line) :
    (endedLines parts).flatten = parts.flatten := by
  induction parts with
  | nil => rfl
  | cons line rest ih =>
    have others := ih fun line hline => h line (List.mem_cons_of_mem _ hline)
    cases rest with
    | nil => cases line <;> rfl
    | cons next rest =>
      have kept : withoutReturn line = line :=
        if_neg fun last => h line List.mem_cons_self (List.mem_of_getLast? last)
      rw [endedLines, List.flatten_cons, List.flatten_cons, kept, others]
      exact List.cons_ne_nil next rest

/-- What is decoded of a body is the body without its line feeds. -/
lemma decodeBody_of_faultless {body : String} (h : bodyFault? body.toList = none) :
    decodeBody body = (Base64.decode (body.toList.filter (· != '\n'))).mapError .encoding := by
  have filled : body.toList ≠ [] := by
    intro empty
    rw [empty] at h
    cases h
  have unreturned : ∀ line ∈ lines body.toList, '\r' ∉ line := by
    intro line hline return_
    have symbol := ((linesFault_eq_none.mp ((bodyFault_eq_linesFault filled).symm.trans h)) line hline).2 _
      return_
    rw [← isBodyChar_iff] at symbol
    cases symbol
  unfold decodeBody
  rw [h, flatten_endedLines unreturned, flatten_lines]

lemma bodyFault_of_decodeBody {body : String} {der : Bytes} (h : decodeBody body = .ok der) :
    bodyFault? body.toList = none ∧ Base64.decode (body.toList.filter (· != '\n')) = .ok der := by
  cases fault : bodyFault? body.toList with
  | some f =>
    unfold decodeBody at h
    rw [fault] at h
    cases h
  | none =>
    rw [decodeBody_of_faultless fault] at h
    exact ⟨rfl, mapError_eq_ok.mp h⟩

/-! ### Frames -/

lemma isFrameOf_iff {text body : String} : IsFrameOf text body ↔
    text.toList = frame body.toList ∨ text.toList = frame body.toList ++ ['\n'] := by
  have bare : (header ++ "\n" ++ body ++ "\n" ++ footer).toList = frame body.toList := by
    simp [frame]
  have closed : (header ++ "\n" ++ body ++ "\n" ++ footer ++ "\n").toList =
      frame body.toList ++ ['\n'] := by
    rw [String.toList_append, bare]
    rfl
  rw [IsFrameOf, ← String.toList_inj, ← String.toList_inj, bare, closed]

lemma strip_eq_ok {text body : String} :
    strip text = .ok body ↔ IsBody body ∧ IsFrameOf text body := by
  rw [isFrameOf_iff, ← bodyFault_eq_none]
  constructor
  · exact framed_of_strip
  · rintro ⟨faultless, framed⟩
    rw [strip_framed framed, faultless, String.ofList_toList]

lemma exists_fault_of_ne_ok {text : String} (h : ∀ body, strip text ≠ .ok body) :
    ∃ fault, strip text = .error fault := by
  cases stripped : strip text with
  | error fault => exact ⟨fault, rfl⟩
  | ok body => exact absurd stripped (h body)

lemma endsWith_lineFeed {text : String} :
    text.endsWith "\n" = true ↔ text.toList.getLast? = some '\n' := by
  rw [String.endsWith_eq_endsWith_toSlice, String.Slice.endsWith_string_iff,
    List.getLast?_eq_some_iff, String.copy_toSlice]
  constructor
  · rintro ⟨front, split⟩
    exact ⟨front, split.symm⟩
  · rintro ⟨front, split⟩
    exact ⟨front, split.symm⟩

/-- A frame ends with a hyphen, so only the line feed behind it can end a text with one. -/
lemma add_of_isFrameOf {text body : String} (h : IsFrameOf text body) :
    add body = if text.endsWith "\n" then text else text ++ "\n" := by
  have added : add body = String.ofList (frame body.toList ++ ['\n']) := by
    rw [← toList_add, String.ofList_toList]
  rw [isFrameOf_iff] at h
  rcases h with h | h
  · have open_end : ¬text.endsWith "\n" = true := by
      rw [endsWith_lineFeed, h, frame, List.getLast?_append_of_ne_nil _ (by simp)]
      simp [footer]
    rw [if_neg open_end, added, ← h]
    simp
  · have closed : text.endsWith "\n" = true := by
      rw [endsWith_lineFeed, h, List.getLast?_append_of_ne_nil _ (by simp)]
      rfl
    rw [if_pos closed, added, ← h, String.ofList_toList]

/-- A text is stripped exactly when it is the frame of a body, with a line feed behind it or none;
any other text has a fault. Framing what was stripped gives the text back, with a line feed at the
end. Framing any text and stripping it gives the text back if it is a body, and a fault if not. -/
theorem strip_accepts_frames :
    (∀ text body, strip text = .ok body ↔ IsBody body ∧ IsFrameOf text body) ∧
    (∀ text, (∀ body, IsBody body → ¬IsFrameOf text body) → ∃ fault, strip text = .error fault) ∧
    (∀ text body, strip text = .ok body →
      add body = if text.endsWith "\n" then text else text ++ "\n") ∧
    (∀ body, IsBody body → strip (add body) = .ok body) ∧
    ∀ body, ¬IsBody body → ∃ fault, strip (add body) = .error fault := by
  have framed : ∀ body, IsFrameOf (add body) body := fun body =>
    isFrameOf_iff.mpr (.inr (toList_add body))
  refine ⟨fun text body => strip_eq_ok, ?_, ?_, ?_, ?_⟩
  · intro text unframed
    apply exists_fault_of_ne_ok
    intro body stripped
    obtain ⟨isBody, isFrame⟩ := strip_eq_ok.mp stripped
    exact unframed body isBody isFrame
  · intro text body stripped
    exact add_of_isFrameOf (strip_eq_ok.mp stripped).2
  · intro body isBody
    exact strip_eq_ok.mpr ⟨isBody, framed body⟩
  · intro body noBody
    cases fault : bodyFault? body.toList with
    | none => exact absurd (bodyFault_eq_none.mp fault) noBody
    | some found =>
      rw [strip_add, fault]
      exact ⟨found, rfl⟩

/-- The body is of two lines; a carriage return is part of no frame and of no body. -/
theorem strip_accepts_frames_twoLines :
    IsBody "TUlJ\nQ=+/" ∧
    IsFrameOf "-----BEGIN CERTIFICATE-----\nTUlJ\nQ=+/\n-----END CERTIFICATE-----" "TUlJ\nQ=+/" ∧
    strip "-----BEGIN CERTIFICATE-----\nTUlJ\nQ=+/\n-----END CERTIFICATE-----" = .ok "TUlJ\nQ=+/" ∧
    add "TUlJ\nQ=+/" = "-----BEGIN CERTIFICATE-----\nTUlJ\nQ=+/\n-----END CERTIFICATE-----\n" ∧
    strip (add "TUlJ\nQ=+/") = .ok "TUlJ\nQ=+/" ∧
    (∃ fault, strip "-----BEGIN CERTIFICATE-----\r\nTUlJ\r\n-----END CERTIFICATE-----\r\n" =
      .error fault) ∧
    ¬IsBody "TUlJ\r" ∧ ∃ fault, strip (add "TUlJ\r") = .error fault := by
  obtain ⟨accepted, refused, restored, kept, faulty⟩ := strip_accepts_frames
  have isBody : IsBody "TUlJ\nQ=+/" := bodyFault_eq_none.mp (by decide)
  have framed : IsFrameOf "-----BEGIN CERTIFICATE-----\nTUlJ\nQ=+/\n-----END CERTIFICATE-----"
      "TUlJ\nQ=+/" := .inl (by decide +kernel)
  have stripped := (accepted _ _).mpr ⟨isBody, framed⟩
  have noBody : ¬IsBody "TUlJ\r" := by
    rw [← bodyFault_eq_none]
    decide
  refine ⟨isBody, framed, stripped, ?_, kept _ isBody, ?_, noBody, faulty _ noBody⟩
  · rw [restored _ _ stripped]
    decide +kernel
  · apply refused
    rintro body - (same | same)
    · have char := congrArg (fun text : String => text.toList[27]?) same
      simp [header] at char
    · have char := congrArg (fun text : String => text.toList[27]?) same
      simp [header] at char

end BootstrapVoucher.Proofs
