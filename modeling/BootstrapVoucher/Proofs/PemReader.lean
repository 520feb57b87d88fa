import BootstrapVoucher.Proofs.DateAndTime
import BootstrapVoucher.Proofs.Pem

/-!
# PEM texts are read back

The reader takes a text line after line and knows a base64 line from an end line by the hyphens. Of
the text of a block it finds the begin line, joins the base64 lines, whose number does not matter,
and stops at the end line, after which nothing is left to read.
-/

namespace BootstrapVoucher.Proofs

open Pem

def certificateLabel : Bytes := Bytes.ofText "CERTIFICATE"

def headerLine : Bytes := beginMark ++ certificateLabel ++ tailMark

def footerLine : Bytes := endMark ++ certificateLabel ++ tailMark

/-- Lines with a line feed after each. -/
def withFeeds (lines : List Bytes) : Bytes := lines.flatMap fun line => line ++ [10]

lemma withFeeds_cons (line : Bytes) (lines : List Bytes) :
    withFeeds (line :: lines) = line ++ 10 :: withFeeds lines := by
  simp [withFeeds]

lemma length_le_withFeeds (lines : List Bytes) : lines.length ≤ (withFeeds lines).length := by
  induction lines with
  | nil => exact Nat.le_refl 0
  | cons line lines ih =>
    rw [withFeeds_cons, List.length_append, List.length_cons, List.length_cons]
    omega

lemma utf8_charOf {x : UInt8} (h : x.toNat < 128) :
    String.utf8EncodeChar (Char.ofNat x.toNat) = [x] := by
  have hascii : ∀ n < 128, String.utf8EncodeChar (Char.ofNat n) = [UInt8.ofNat n] := by
    decide +kernel
  rw [hascii _ h, UInt8.ofNat_toNat]

lemma ofText_write (data : Bytes) : Bytes.ofText (write "CERTIFICATE" data) =
    headerLine ++ 10 :: (withFeeds (bodyLines data) ++ (footerLine ++ [10])) := by
  have hheader : Armor.header.toList.flatMap String.utf8EncodeChar = headerLine := by
    decide +kernel
  have hfooter : Armor.footer.toList.flatMap String.utf8EncodeChar = footerLine := by
    decide +kernel
  have hfeed : String.utf8EncodeChar '\n' = [10] := by decide +kernel
  have hline : ∀ line ∈ bodyLines data,
      (charsOf line ++ ['\n']).flatMap String.utf8EncodeChar = line ++ [10] := by
    intro line h
    have hchars : (charsOf line).flatMap String.utf8EncodeChar = line := by
      rw [charsOf, List.flatMap_map]
      refine (List.flatMap_congr fun x hx => ?_).trans (List.flatMap_singleton' line)
      have hcode := ((isBodyLine_bodyLines data line h).symbols x hx).code
      exact utf8_charOf (by omega)
    rw [List.flatMap_append, hchars, List.flatMap_singleton, hfeed]
  have hbody : ((bodyLines data).flatMap fun line => charsOf line ++ ['\n']).flatMap
      String.utf8EncodeChar = withFeeds (bodyLines data) := by
    rw [List.flatMap_assoc, List.flatMap_congr hline]
    rfl
  have htext := ofText_ofList (write "CERTIFICATE" data).toList
  rw [String.ofList_toList, toList_write] at htext
  rw [htext]
  simp only [List.flatMap_append, List.flatMap_cons, List.flatMap_nil, hheader, hfooter, hfeed,
    hbody]
  simp

lemma length_write (data : Bytes) :
    ∃ n, (Bytes.ofText (write "CERTIFICATE" data)).length = n + 1 := by
  rw [ofText_write, List.length_append, List.length_cons]
  exact ⟨_, rfl⟩

lemma cutLine_line {line : Bytes} {room : Nat} (hfeed : 10 ∉ line) (hroom : line.length < room)
    (rest : Bytes) : cutLine room (line ++ 10 :: rest) = (line ++ [10], rest) := by
  induction line generalizing room with
  | nil =>
    obtain ⟨room, rfl⟩ := Nat.exists_eq_succ_of_ne_zero hroom.ne_bot
    rfl
  | cons x line ih =>
    obtain ⟨room, rfl⟩ := Nat.exists_eq_succ_of_ne_zero (by omega : room ≠ 0)
    simp only [List.mem_cons, not_or] at hfeed
    have hx : ¬x = 10 := fun h => hfeed.1 h.symm
    rw [List.cons_append, cutLine, if_neg hx, ih hfeed.2 (by simpa using hroom)]
    rfl

/-- A line that ends with a visible character is left as it is. -/
lemma trimmed_line {line : Bytes} {x : UInt8} (hlast : line.getLast? = some x) (hlow : 32 < x)
    (hhigh : x < 128) : trimmed (line ++ [10]) = line := by
  obtain ⟨front, rfl⟩ := List.getLast?_eq_some_iff.mp hlast
  have hx : (x ≤ 32 || 128 ≤ x) = false := by
    rw [Bool.or_eq_false_iff, decide_eq_false_iff_not, decide_eq_false_iff_not]
    exact ⟨UInt8.not_le.mpr hlow, UInt8.not_le.mpr hhigh⟩
  have hfeed : ((10 : UInt8) ≤ 32 || (128 : UInt8) ≤ 10) = true := rfl
  rw [trimmed, List.reverse_append, List.reverse_append, List.reverse_singleton,
    List.reverse_singleton, List.singleton_append, List.singleton_append, List.dropWhile_cons,
    if_pos hfeed, List.dropWhile_cons, if_neg (by simp [hx]), List.reverse_cons,
    List.reverse_reverse]

lemma findBegin_header (fuel : Nat) (rest : Bytes) :
    findBegin (fuel + 1) true (headerLine ++ 10 :: rest) = some (certificateLabel, rest) := by
  have hfeed : 10 ∉ headerLine := by decide +kernel
  have hcut := cutLine_line hfeed (by decide +kernel : headerLine.length < lineLimit) rest
  have hlabel : label? (trimmed (withoutMark (headerLine ++ [10]))) = some certificateLabel := by
    decide +kernel
  rw [findBegin]
  simp [hcut, hlabel]

/-- A line of base64 text has no line feed, no colon, no hyphen and no NUL character. -/
lemma IsBodyLine.notMem {line : Bytes} (h : IsBodyLine line) (x : UInt8)
    (hx : x.toNat < 43 ∨ x.toNat = 45 ∨ x.toNat = 58) : x ∉ line := by
  intro hmem
  have hcode := (h.symbols x hmem).code
  omega

lemma readLines_line {line : Bytes} (h : IsBodyLine line) (label before rest : Bytes) (fuel : Nat) :
    readLines label (fuel + 1) ⟨before, [], false, false, false, false⟩ (line ++ 10 :: rest) =
      readLines label fuel ⟨before ++ (line ++ [10]), [], false, false, false, false⟩ rest := by
  have hshort := h.short
  have hroom : line.length < lineLimit := by
    rw [lineLimit]
    omega
  have hcut := cutLine_line (h.notMem 10 (by decide)) hroom rest
  have htrimmed : trimmed (line ++ [10]) = line := by
    obtain ⟨x, hlast⟩ := Option.isSome_iff_exists.mp (List.getLast?_isSome.mpr h.nonempty)
    have hcode := (h.symbols x (List.mem_of_getLast? hlast)).code
    refine trimmed_line hlast ?_ ?_
    · exact UInt8.lt_iff_toNat_lt.mpr (by simp; omega)
    · exact UInt8.lt_iff_toNat_lt.mpr (by simp; omega)
  have hfull : ((line ++ [10]).length == lineLimit) = false := by
    rw [beq_eq_false_iff_ne, List.length_append, lineLimit]
    simp
    omega
  have hcolon : (line ++ [10]).contains 58 = false := by
    have hmem := h.notMem 58 (by decide)
    simpa using hmem
  have hend : endMark.isPrefixOf line = false := by
    -- an end line starts with a hyphen
    have hmem := h.notMem 45 (by decide)
    rw [Bool.eq_false_iff]
    intro hprefix
    obtain ⟨rest, rfl⟩ := List.isPrefixOf_iff_prefix.mp hprefix
    have hmark : 45 ∈ endMark := by decide +kernel
    exact hmem (List.mem_append_left _ hmark)
  -- a line that holds a NUL character would be cut short there
  have htaken : taken line = line ++ [10] := by
    have hmem := h.notMem 0 (by decide)
    rw [taken, if_neg (by simpa using hmem)]
  have hempty : line.isEmpty = false := List.isEmpty_eq_false_iff.mpr h.nonempty
  rw [readLines, if_neg (by simp)]
  simp only [hcut, htrimmed, hfull, hcolon, hend, htaken, hempty]
  rfl

lemma readLines_lines {lines : List Bytes} (h : ∀ line ∈ lines, IsBodyLine line)
    (label before rest : Bytes) (fuel : Nat) :
    readLines label (fuel + lines.length) ⟨before, [], false, false, false, false⟩
        (withFeeds lines ++ rest) =
      readLines label fuel ⟨before ++ withFeeds lines, [], false, false, false, false⟩ rest := by
  -- each line moves from the text to what has been read, so that part varies in the induction
  induction lines generalizing before with
  | nil => simp [withFeeds]
  | cons line lines ih =>
    have hothers : ∀ other ∈ lines, IsBodyLine other :=
      fun other hother => h other (List.mem_cons_of_mem _ hother)
    rw [withFeeds_cons, List.append_assoc, List.cons_append, List.length_cons, ← Nat.add_assoc,
      readLines_line (h line List.mem_cons_self), ih hothers]
    simp

lemma readLines_footer (before : Bytes) (fuel : Nat) :
    readLines certificateLabel (fuel + 1) ⟨before, [], false, false, false, false⟩
      (footerLine ++ [10]) = (some ([], before), []) := by
  have hfeed : 10 ∉ footerLine := by decide +kernel
  have hcut := cutLine_line hfeed (by decide +kernel : footerLine.length < lineLimit) []
  have htrimmed : trimmed (footerLine ++ [10]) = footerLine := by decide +kernel
  have hend : endMark.isPrefixOf footerLine = true := by decide +kernel
  have hlabel : isEnd certificateLabel footerLine = true := by decide +kernel
  have hempty : footerLine.isEmpty = false := by decide +kernel
  have hcolon : (footerLine ++ [10]).contains 58 = false := by decide +kernel
  rw [readLines, if_neg (by simp)]
  simp only [hcut, htrimmed, hend, hlabel, hempty, hcolon]
  rfl

lemma symbols?_append {b : Bytes} (h : ∀ x ∈ b, IsBase64Byte x) (rest : Bytes) :
    symbols? (b ++ rest) = (symbols? rest).map (charsOf b ++ ·) := by
  induction b with
  | nil => simp [charsOf]
  | cons x b ih =>
    have hx := h x List.mem_cons_self
    have hcode := hx.code
    have hhyphen : ¬x = 45 := by
      rintro rfl
      simp at hcode
    have hblank : ¬(x = 32 || x = 9 || x = 10 || x = 13) = true := by
      simp only [Bool.or_eq_true, decide_eq_true_eq]
      rintro (((rfl | rfl) | rfl) | rfl) <;> simp at hcode
    have hsymbol :
        ((Base64.value? (Char.ofNat x.toNat)).isSome || Char.ofNat x.toNat == '=') = true := by
      rw [Bool.or_eq_true, beq_iff_eq]
      exact hx
    rw [List.cons_append, symbols?, ih fun y hy => h y (List.mem_cons_of_mem _ hy)]
    simp only [if_neg hhyphen, if_neg hblank, if_pos hsymbol]
    cases symbols? rest with
    | none => rfl
    | some symbols => rfl

lemma symbols?_lines {lines : List Bytes} (h : ∀ line ∈ lines, IsBodyLine line) :
    symbols? (withFeeds lines) = some (charsOf lines.flatten) := by
  induction lines with
  | nil => rfl
  | cons line lines ih =>
    have hline := (h line List.mem_cons_self).symbols
    have hothers : ∀ other ∈ lines, IsBodyLine other :=
      fun other hother => h other (List.mem_cons_of_mem _ hother)
    have hfeed : ∀ b, symbols? (10 :: b) = symbols? b := fun b => rfl
    rw [withFeeds_cons, symbols?_append hline, hfeed, ih hothers]
    simp [charsOf]

lemma decode?_bodyLines (data : Bytes) : decode? (withFeeds (bodyLines data)) = some data := by
  have hsymbols := symbols?_lines (isBodyLine_bodyLines data)
  rw [flatten_bodyLines, charsOf_base64Bytes, encode_eq_sextets] at hsymbols
  have padded := isPadded_sextets data
  have hvalues : ∀ c ∈ (sextets data).map Base64.symbol, (c != '=') = true := by
    intro c hc
    obtain ⟨v, hv, rfl⟩ := List.mem_map.mp hc
    exact bne_iff_ne.mpr (symbol_ne_equals (padded.small v hv))
  have hpadding : (List.replicate (padding data) '=').all (· == '=') = true ∧
      (List.replicate (padding data) '=').length ≤ 2 := by
    have grouped := padded.grouped
    rw [List.length_replicate]
    exact ⟨by simp, by omega⟩
  unfold decode?
  rw [hsymbols]
  simp only [Option.bind_eq_bind, Option.bind_some, takeWhile_padded hvalues rfl,
    dropWhile_padded hvalues rfl, guard, if_pos (And.intro padded.length_mod hpadding),
    filterMap_value_symbol padded.small, bytesOf_sextets]
  rfl

/-- A written block is the only one in its text. -/
lemma next?_write {data : Bytes} (h : data ≠ []) :
    next? (Bytes.ofText (write "CERTIFICATE" data)) =
      some (.ok ⟨certificateLabel, [], data⟩, []) := by
  -- the fuel of both searches is the length of a text, which exceeds the number of its lines
  obtain ⟨room, hroom⟩ := length_write data
  obtain ⟨fuel, hfuel⟩ : ∃ fuel, (withFeeds (bodyLines data) ++ (footerLine ++ [10])).length =
      fuel + 1 + (bodyLines data).length := by
    have hle := length_le_withFeeds (bodyLines data)
    refine ⟨(withFeeds (bodyLines data)).length - (bodyLines data).length + footerLine.length, ?_⟩
    rw [List.length_append, List.length_append, List.length_singleton]
    omega
  have hread : readLines certificateLabel (fuel + 1 + (bodyLines data).length)
      ⟨[], [], false, false, false, false⟩ (withFeeds (bodyLines data) ++ (footerLine ++ [10])) =
        (some ([], withFeeds (bodyLines data)), []) := by
    rw [readLines_lines (isBodyLine_bodyLines data), readLines_footer, List.nil_append]
  unfold next?
  rw [hroom, ofText_write, findBegin_header]
  simp only [Option.bind_eq_bind, Option.bind_some, hfuel, hread, decode?_bodyLines,
    Option.map_some]
  obtain ⟨x, rest, rfl⟩ := List.exists_cons_of_ne_nil h
  rfl

lemma find_write {labels : List String} (hlabel : "CERTIFICATE" ∈ labels) {data : Bytes}
    (h : data ≠ []) (fuel : Nat) :
    find labels (fuel + 1) (Bytes.ofText (write "CERTIFICATE" data)) =
      .ok (⟨certificateLabel, [], data⟩, []) := by
  have hknown : (labels.any fun label => Bytes.ofText label == certificateLabel) = true :=
    List.any_eq_true.mpr ⟨_, hlabel, beq_self_eq_true certificateLabel⟩
  rw [find, next?_write h]
  simp only [hknown]
  rfl

/-- Of the text of a written block exactly this block is read. -/
lemma readAll_write {α : Type} {labels : List String} (hlabel : "CERTIFICATE" ∈ labels)
    (read : Block → Except Failure α) {data : Bytes} (h : data ≠ []) :
    readAll labels read ((Bytes.ofText (write "CERTIFICATE" data)).length + 1)
        (Bytes.ofText (write "CERTIFICATE" data)) =
      (read ⟨certificateLabel, [], data⟩).map fun value => [value] := by
  obtain ⟨n, hn⟩ := length_write data
  have hrest : readAll labels read (n + 1) [] = .ok [] := rfl
  rw [hn, readAll, find_write hlabel h]
  simp only [hrest]
  cases read ⟨certificateLabel, [], data⟩ with
  | error failure => rfl
  | ok value => rfl

end BootstrapVoucher.Proofs
