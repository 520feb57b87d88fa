import BootstrapVoucher.Proofs.ArmoredText

/-!
# Where a body is at fault

A body is looked through line by line, and a line character by character. What is reported is the
first line with anything wrong, by its number from 0: that it is empty, or else its first character
that is none of base64 text. The report is the same whether the body is checked by itself, stripped
of a frame or decoded.
-/

namespace BootstrapVoucher.Proofs

open Armor

/-- No body has such a line: it is empty, or it holds a character that is none of base64 text. -/
def IsFaulty (line : String) : Prop := line = "" ∨ ∃ c ∈ line.toList, ¬IsBase64Char c

/-- The numbers of the faulty lines, counted from 0. -/
def faultyLines (parts : List String) : Set ℕ :=
  {i | ∃ line, parts[i]? = some line ∧ IsFaulty line}

/-- The first character of a line that is none of base64 text. -/
def IsFirstStray (c : Char) (line : String) : Prop :=
  ∃ front rest, line.toList = front ++ c :: rest ∧ (∀ d ∈ front, IsBase64Char d) ∧ ¬IsBase64Char c

/-- What is reported of a faulty line with a given number, and the text of the report. -/
inductive Blames (number : ℕ) (line : String) : Fault → String → Prop
  | emptyLine (empty : line = "") : Blames number line (.emptyLine number)
      ("empty line " ++ toString number ++ " in certificate body")
  | character {c : Char} (stray : IsFirstStray c line) : Blames number line (.character c number)
      ("unexpected character " ++ Text.quotedChar c ++ " at line " ++ toString number ++
        " of certificate body")

/-! ### One line -/

lemma not_isFaulty {line : String} :
    ¬IsFaulty line ↔ line.toList ≠ [] ∧ ∀ c ∈ line.toList, IsBase64Char c := by
  unfold IsFaulty
  push Not
  simp

lemma find?_stray {c : Char} {line : String} :
    (line.toList.find? fun c => !isBodyChar c) = some c ↔ IsFirstStray c line := by
  rw [List.find?_eq_some_iff_append, IsFirstStray]
  simp only [Bool.not_eq_true', Bool.not_not, Bool.eq_false_iff, Ne, isBodyChar_iff]
  constructor
  · rintro ⟨stray, front, rest, cut, sound⟩
    exact ⟨front, rest, cut, sound, stray⟩
  · rintro ⟨front, rest, cut, sound, stray⟩
    exact ⟨stray, front, rest, cut, sound⟩

/-- A stray character stands in a line, so an empty line has none. -/
lemma IsFirstStray.line_ne {c : Char} {line : String} (h : IsFirstStray c line) :
    line.toList ≠ [] := by
  obtain ⟨front, rest, cut, -, -⟩ := h
  rw [cut]
  simp

lemma lineFault_eq_some {number : ℕ} {line : String} {fault : Fault} :
    lineFault? number line.toList = some fault ↔ Blames number line fault fault.message := by
  unfold lineFault?
  constructor
  · intro h
    split at h
    · rename_i empty
      cases h
      exact .emptyLine (by simpa using empty)
    · obtain ⟨c, found, rfl⟩ := Option.map_eq_some_iff.mp h
      exact .character (find?_stray.mp found)
  · intro h
    -- the text is the one of the fault, which is taken apart first for that reason
    cases fault with
    | emptyLine i =>
      cases h with
      | emptyLine empty => rw [if_pos (by simpa using empty)]
    | character c i =>
      cases h with
      | character stray =>
        rw [if_neg (by simpa using stray.line_ne), find?_stray.mpr stray, Option.map_some]
    | noHeader => nomatch h
    | noFooter => nomatch h
    | emptyBody => nomatch h
    | encoding unreadable => nomatch h

/-! ### The first faulty line -/

lemma zero_mem_faultyLines {line : String} {rest : List String} :
    0 ∈ faultyLines (line :: rest) ↔ IsFaulty line := by
  simp [faultyLines]

lemma succ_mem_faultyLines {line : String} {rest : List String} {i : ℕ} :
    i + 1 ∈ faultyLines (line :: rest) ↔ i ∈ faultyLines rest := by
  simp [faultyLines]

lemma isLeast_of_faulty {line : String} {rest : List String} {i : ℕ} (h : IsFaulty line) :
    IsLeast (faultyLines (line :: rest)) i ↔ i = 0 := by
  have first : IsLeast (faultyLines (line :: rest)) 0 :=
    ⟨zero_mem_faultyLines.mpr h, fun j _ => Nat.zero_le j⟩
  constructor
  · intro least
    exact least.unique first
  · rintro rfl
    exact first

lemma isLeast_of_sound {line : String} {rest : List String} {i : ℕ} (h : ¬IsFaulty line) :
    IsLeast (faultyLines (line :: rest)) i ↔ ∃ k, i = k + 1 ∧ IsLeast (faultyLines rest) k := by
  constructor
  · rintro ⟨faulty, bound⟩
    cases i with
    | zero => exact absurd (zero_mem_faultyLines.mp faulty) h
    | succ k =>
      refine ⟨k, rfl, succ_mem_faultyLines.mp faulty, ?_⟩
      intro j hj
      exact Nat.le_of_succ_le_succ (bound (succ_mem_faultyLines.mpr hj))
  · rintro ⟨k, rfl, faulty, bound⟩
    refine ⟨succ_mem_faultyLines.mpr faulty, ?_⟩
    intro j hj
    cases j with
    | zero => exact absurd (zero_mem_faultyLines.mp hj) h
    | succ j => exact Nat.succ_le_succ (bound (succ_mem_faultyLines.mp hj))

/-- What is found in lines counted from some number is what there is to report of the first faulty
line. -/
lemma linesFault_eq_some {number : ℕ} {parts : List String} {fault : Fault} :
    linesFault? number (parts.map String.toList) = some fault ↔ ∃ i line,
      IsLeast (faultyLines parts) i ∧ parts[i]? = some line ∧
        Blames (number + i) line fault fault.message := by
  -- a sound line only moves the count on, so the number at which it starts varies
  induction parts generalizing number with
  | nil => simp [linesFault?]
  | cons line rest ih =>
    rw [List.map_cons, linesFault?]
    by_cases faulty : IsFaulty line
    · obtain ⟨found, hfound⟩ : ∃ found, lineFault? number line.toList = some found := by
        rw [← Option.ne_none_iff_exists', Ne, lineFault_eq_none, ← not_isFaulty, not_not]
        exact faulty
      have step : found = fault ↔ Blames number line fault fault.message := by
        rw [← lineFault_eq_some, hfound, Option.some_inj]
      simp only [hfound, Option.some_inj, step, isLeast_of_faulty faulty]
      simp
    · rw [lineFault_eq_none.mpr (not_isFaulty.mp faulty)]
      simp only [ih, isLeast_of_sound faulty]
      constructor
      · rintro ⟨k, other, least, at_, blamed⟩
        refine ⟨k + 1, other, ⟨k, rfl, least⟩, at_, ?_⟩
        rwa [Nat.add_assoc, Nat.add_comm 1] at blamed
      · rintro ⟨_, other, ⟨k, rfl, least⟩, at_, blamed⟩
        refine ⟨k, other, least, at_, ?_⟩
        rwa [Nat.add_assoc, Nat.add_comm 1]

lemma faultyLines_eq_empty {number : ℕ} {parts : List String} :
    faultyLines parts = ∅ ↔ linesFault? number (parts.map String.toList) = none := by
  rw [linesFault_eq_none, List.forall_mem_map, Set.eq_empty_iff_forall_notMem]
  constructor
  · intro sound line hline
    obtain ⟨i, at_⟩ := List.mem_iff_getElem?.mp hline
    exact not_isFaulty.mp fun faulty => sound i ⟨line, at_, faulty⟩
  · rintro sound i ⟨line, at_, faulty⟩
    exact not_isFaulty.mpr (sound line (List.mem_of_getElem? at_)) faulty

/-! ### Bodies -/

/-- A text is cut into lines in one way. A body with any characters is refused for the first faulty
one of its lines: for being empty if it is, and else for its first character that is none of base64
text; without such a line it is accepted. A refused body is refused for the same when a frame around
it is stripped and when it is decoded. -/
theorem body_is_blamed_at_first_fault (body : String) :
    (∃! parts, HasLines body parts) ∧
    (∀ parts, HasLines body parts → body ≠ "" →
      (∀ fault, bodyFault? body.toList = some fault ↔ ∃ i line,
        IsLeast (faultyLines parts) i ∧ parts[i]? = some line ∧
          Blames i line fault fault.message) ∧
      (bodyFault? body.toList = none ↔ faultyLines parts = ∅)) ∧
    ∀ fault, bodyFault? body.toList = some fault →
      (∀ text, IsFrameOf text body → strip text = .error fault) ∧
        decodeBody body = .error fault := by
  refine ⟨⟨_, hasLines_lines body, fun parts cut => cut.unique (hasLines_lines body)⟩, ?_, ?_⟩
  · intro parts cut nonempty
    have filled : body.toList ≠ [] := by simpa using nonempty
    rw [bodyFault_eq_linesFault filled, cut.lines_eq]
    refine ⟨fun fault => ?_, faultyLines_eq_empty.symm⟩
    rw [linesFault_eq_some]
    simp only [Nat.zero_add]
  · intro fault refused
    constructor
    · intro text framed
      rw [strip_framed (isFrameOf_iff.mp framed), refused]
    · rw [decodeBody, refused]

/-- The first body has a blank, a letter that is not ASCII and a line feed at its end, and is blamed
for the blank; the second one starts with a line feed; the third one has no fault. -/
theorem body_is_blamed_at_first_fault_blank :
    (HasLines "TUlJ\nQ é=\n" ["TUlJ", "Q é=", ""] ∧
      IsFrameOf (header ++ "\n" ++ "TUlJ\nQ é=\n" ++ "\n" ++ footer) "TUlJ\nQ é=\n" ∧
      bodyFault? "TUlJ\nQ é=\n".toList = some (.character ' ' 1) ∧
      strip (header ++ "\n" ++ "TUlJ\nQ é=\n" ++ "\n" ++ footer) = .error (.character ' ' 1) ∧
      decodeBody "TUlJ\nQ é=\n" = .error (.character ' ' 1)) ∧
    (HasLines "\nTUlJ\r" ["", "TUlJ\r"] ∧
      bodyFault? "\nTUlJ\r".toList = some (.emptyLine 0) ∧
      strip (add "\nTUlJ\r") = .error (.emptyLine 0) ∧
      decodeBody "\nTUlJ\r" = .error (.emptyLine 0)) ∧
    HasLines "TUlJ\nQ=+/" ["TUlJ", "Q=+/"] ∧ bodyFault? "TUlJ\nQ=+/".toList = none := by
  have cut : HasLines "TUlJ\nQ é=\n" ["TUlJ", "Q é=", ""] := ⟨by decide, by decide, by decide⟩
  have cut_second : HasLines "\nTUlJ\r" ["", "TUlJ\r"] := ⟨by decide, by decide, by decide⟩
  have cut_third : HasLines "TUlJ\nQ=+/" ["TUlJ", "Q=+/"] := ⟨by decide, by decide, by decide⟩
  have sound : lineFault? 0 "TUlJ".toList = none := by decide
  have blank : ¬IsBase64Char ' ' := by
    rw [← isBodyChar_iff]
    decide
  have letter : IsBase64Char 'Q' := isBodyChar_iff.mp (by decide)
  have faulty : IsFaulty "Q é=" := .inr ⟨' ', by decide, blank⟩
  have stray : IsFirstStray ' ' "Q é=" := ⟨['Q'], ['é', '='], by decide, by simpa using letter, blank⟩
  have least : IsLeast (faultyLines ["TUlJ", "Q é=", ""]) 1 :=
    (isLeast_of_sound (not_isFaulty.mpr (lineFault_eq_none.mp sound))).mpr
      ⟨0, rfl, (isLeast_of_faulty faulty).mpr rfl⟩
  have least_second : IsLeast (faultyLines ["", "TUlJ\r"]) 0 :=
    (isLeast_of_faulty (.inl rfl)).mpr rfl
  obtain ⟨-, judged, spread⟩ := body_is_blamed_at_first_fault "TUlJ\nQ é=\n"
  obtain ⟨-, judged_second, spread_second⟩ := body_is_blamed_at_first_fault "\nTUlJ\r"
  obtain ⟨-, judged_third, -⟩ := body_is_blamed_at_first_fault "TUlJ\nQ=+/"
  have blamed := ((judged _ cut (by decide)).1 (.character ' ' 1)).mpr
    ⟨1, "Q é=", least, rfl, .character stray⟩
  have blamed_second := ((judged_second _ cut_second (by decide)).1 (.emptyLine 0)).mpr
    ⟨0, "", least_second, rfl, .emptyLine rfl⟩
  have framed : IsFrameOf (add "\nTUlJ\r") "\nTUlJ\r" := isFrameOf_iff.mpr (.inr (toList_add _))
  have faultless : linesFault? 0 (["TUlJ", "Q=+/"].map String.toList) = none := by decide
  exact ⟨⟨cut, .inl rfl, blamed, (spread _ blamed).1 _ (.inl rfl), (spread _ blamed).2⟩,
    ⟨cut_second, blamed_second, (spread_second _ blamed_second).1 _ framed,
      (spread_second _ blamed_second).2⟩,
    cut_third, (judged_third _ cut_third (by decide)).2.mpr (faultyLines_eq_empty.mpr faultless)⟩

end BootstrapVoucher.Proofs
