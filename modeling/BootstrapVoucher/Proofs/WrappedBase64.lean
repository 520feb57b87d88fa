import BootstrapVoucher.Proofs.ArmoredText
import BootstrapVoucher.Proofs.Base64

/-!
# Bodies are line-wrapped base64

Base64 is canonical: a text without a fault consists of symbols and the padding that completes their
last group, no bit is left over, and so the text is the base64 text of the bytes that it gives. A body
is decoded exactly when its lines make up such a text, wherever the lines break.
-/

namespace BootstrapVoucher.Proofs

open Base64

/-! ### Texts without a fault -/

lemma symbol_of_value {c : Char} {v : Nat} (h : value? c = some v) : v < 64 ∧ symbol v = c := by
  simp only [value?] at h
  split at h
  · rename_i upper
    cases h
    refine ⟨by omega, ?_⟩
    rw [symbol, if_pos (by omega), Nat.add_sub_cancel' upper.1, Char.ofNat_toNat]
  · split at h
    · rename_i lower
      cases h
      refine ⟨by omega, ?_⟩
      rw [symbol, if_neg (by omega), if_pos (by omega), Nat.add_sub_cancel' (by omega),
        Char.ofNat_toNat]
    · split at h
      · rename_i digit
        cases h
        refine ⟨by omega, ?_⟩
        rw [symbol, if_neg (by omega), if_neg (by omega), if_pos (by omega), Nat.add_sub_cancel,
          Char.ofNat_toNat]
      · split at h
        · rename_i plus
          cases h
          exact ⟨by decide, plus.symm⟩
        · split at h
          · rename_i slash
            cases h
            exact ⟨by decide, slash.symm⟩
          · cases h

lemma exists_values {symbols : List Char} (h : ∀ c ∈ symbols, (value? c).isSome = true) :
    ∃ values : List Nat, (∀ v ∈ values, v < 64) ∧ symbols = values.map symbol := by
  induction symbols with
  | nil => exact ⟨[], by simp, rfl⟩
  | cons c symbols ih =>
    obtain ⟨head, others⟩ := List.forall_mem_cons.mp h
    obtain ⟨v, hv⟩ := Option.isSome_iff_exists.mp head
    obtain ⟨small, spelled⟩ := symbol_of_value hv
    obtain ⟨values, hvalues, rfl⟩ := ih others
    exact ⟨v :: values, List.forall_mem_cons.mpr ⟨small, hvalues⟩, by rw [List.map_cons, spelled]⟩

/-- A text without a fault is symbols and their padding. -/
lemma isPadded_of_fault {text : List Char} (h : fault? text = none) :
    ∃ values padding, IsPadded values padding ∧
      text = values.map symbol ++ List.replicate padding '=' := by
  have parted := List.takeWhile_append_dropWhile (p := fun c => (value? c).isSome) (l := text)
  have symbols : ∀ c ∈ text.takeWhile fun c => (value? c).isSome, (value? c).isSome = true :=
    fun c hc => List.mem_takeWhile_imp (p := fun c => (value? c).isSome) hc
  obtain ⟨values, small, spelled⟩ := exists_values symbols
  unfold fault? at h
  dsimp only at h
  rw [spelled] at h parted
  generalize text.dropWhile (fun c => (value? c).isSome) = rest at h parted
  have length := congrArg List.length parted
  rw [List.length_append, List.length_map] at length
  split at h
  · cases h
  · split at h
    · rename_i c rest
      split at h
      · rename_i padded
        rw [Bool.and_eq_true, Bool.and_eq_true, List.all_eq_true, decide_eq_true_iff,
          decide_eq_true_iff, List.length_map] at padded
        obtain ⟨⟨equals, two⟩, four⟩ := padded
        have some_padding : 0 < (c :: rest).length := List.length_pos_of_ne_nil (by simp)
        split at h
        · cases h
        · split at h
          · cases h
          · rename_i whole spare
            rw [value_getLastD small, List.length_map, not_not] at spare
            refine ⟨values, (c :: rest).length, ⟨small, by omega, spare⟩, ?_⟩
            rw [← parted, List.append_cancel_left_eq]
            exact List.eq_replicate_of_mem fun x hx => by simpa using equals x hx
      · cases h
    · split at h
      · cases h
      · rename_i whole
        have groups : values.length % 4 = 0 := by
          rw [List.length_nil] at length
          omega
        refine ⟨values, 0, ⟨small, .inl ⟨groups, rfl⟩, ?_⟩, parted.symm⟩
        simp [spareBits, groups]

/-! ### Bytes are encoded again -/

/-- The values of a padded text are those of the bytes that it gives. -/
lemma sextets_bytesOf {values : List Nat} {n : Nat} (h : IsPadded values n) :
    sextets (bytesOf values) = values ∧ padding (bytesOf values) = n := by
  induction values using bytesOf.induct with
  | case1 p q r s rest ih =>
    obtain ⟨⟨hp, hq, hr, hs⟩, others⟩ := isPadded_group.mp h
    obtain ⟨again, padded⟩ := ih others
    rw [bytesOf]
    refine ⟨?_, by rw [padding_cons, padded]⟩
    simp only [sextets, again, UInt8.toNat_ofNat']
    congr 1
    · omega
    congr 1
    · omega
    congr 1
    · omega
    congr 1
    omega
  | case2 p q r =>
    have small := h.small
    simp only [List.forall_mem_cons] at small
    obtain ⟨hp, hq, hr, -⟩ := small
    have spare : r % 4 = 0 := h.spare
    have grouped := h.grouped
    simp only [List.length_cons, List.length_nil] at grouped
    refine ⟨?_, by simp only [bytesOf, padding, List.length_cons, List.length_nil]; omega⟩
    simp only [bytesOf, sextets, UInt8.toNat_ofNat']
    congr 1
    · omega
    congr 1
    · omega
    congr 1
    omega
  | case3 p q =>
    have small := h.small
    simp only [List.forall_mem_cons] at small
    obtain ⟨hp, hq, -⟩ := small
    have spare : q % 16 = 0 := h.spare
    have grouped := h.grouped
    simp only [List.length_cons, List.length_nil] at grouped
    refine ⟨?_, by simp only [bytesOf, padding, List.length_cons, List.length_nil]; omega⟩
    simp only [bytesOf, sextets, UInt8.toNat_ofNat']
    congr 1
    · omega
    congr 1
    omega
  | case4 values not_four not_three not_two =>
    have grouped := h.grouped
    rcases values with - | ⟨p, - | ⟨q, - | ⟨r, - | ⟨s, rest⟩⟩⟩⟩
    · have bare : n = 0 := by
        rw [List.length_nil] at grouped
        omega
      exact ⟨rfl, bare.symm⟩
    · rw [List.length_singleton] at grouped
      omega
    · exact absurd rfl (not_two p q)
    · exact absurd rfl (not_three p q r)
    · exact absurd rfl (not_four p q r s rest)

lemma decode_eq_ok_iff {text : List Char} {b : Bytes} : decode text = .ok b ↔ text = encode b := by
  constructor
  · intro h
    unfold decode at h
    split at h
    · cases h
    · rename_i faultless
      cases h
      obtain ⟨values, n, padded, rfl⟩ := isPadded_of_fault faultless
      obtain ⟨again, spaces⟩ := sextets_bytesOf padded
      rw [filterMap_value_padded padded.small, encode_eq_sextets, again, spaces]
  · rintro rfl
    exact decode_encode_base64 b

/-! ### Bodies -/

/-- What is left of a text without its line feeds. -/
def withoutFeeds (text : String) : List Char := text.toList.filter (· != '\n')

lemma filter_intercalate {parts : List (List Char)} (h : ∀ part ∈ parts, '\n' ∉ part) :
    (['\n'].intercalate parts).filter (· != '\n') = parts.flatten := by
  have kept : ∀ part ∈ parts, part.filter (· != '\n') = part := by
    intro part hpart
    rw [List.filter_eq_self]
    intro c hc
    rw [bne_iff_ne]
    rintro rfl
    exact h part hpart hc
  induction parts with
  | nil => rfl
  | cons part others ih =>
    obtain ⟨_, unbroken⟩ := List.forall_mem_cons.mp h
    obtain ⟨same, others_kept⟩ := List.forall_mem_cons.mp kept
    cases others with
    | nil => simpa using same
    | cons next rest =>
      rw [List.intercalate_cons_cons, List.filter_append, List.filter_append, same,
        ih unbroken others_kept, List.flatten_cons]
      simp

lemma IsWrapped.withoutFeeds_eq {text : String} {parts : List String} (h : IsWrapped text parts) :
    withoutFeeds text = (String.join parts).toList := by
  have feed : "\n".toList = ['\n'] := rfl
  rw [withoutFeeds, h.joined, String.toList_intercalate, feed, filter_intercalate]
  · rw [String.toList_join, List.flatMap_def]
  · intro line hline
    obtain ⟨part, hpart, rfl⟩ := List.mem_map.mp hline
    exact h.unbroken part hpart

lemma isBase64Char_symbol {v : Nat} (h : v < 64) : IsBase64Char (symbol v) := by
  rw [← isBodyChar_iff]
  revert v
  decide

lemma isBase64Char_of_mem_encode {b : Bytes} {c : Char} (h : c ∈ encode b) : IsBase64Char c := by
  rcases value_of_mem_encode h with known | rfl
  · obtain ⟨v, hv⟩ := Option.isSome_iff_exists.mp known
    obtain ⟨small, rfl⟩ := symbol_of_value hv
    exact isBase64Char_symbol small
  · simp [IsBase64Char]

/-- A body is decoded if it has no fault and what is left without its line feeds is base64 text. -/
lemma decodeBody_eq_ok {body : String} {der : Bytes} :
    Armor.decodeBody body = .ok der ↔ IsBody body ∧ withoutFeeds body = encode der := by
  rw [← bodyFault_eq_none, withoutFeeds, ← decode_eq_ok_iff]
  constructor
  · exact bodyFault_of_decodeBody
  · rintro ⟨faultless, decoded⟩
    rw [decodeBody_of_faultless faultless]
    exact mapError_eq_ok.mpr decoded

/-- A text whose lines make up base64 text is a body. -/
lemma IsWrapped.isBody {text : String} {parts : List String} {b : Bytes} (h : IsWrapped text parts)
    (spelled : (String.join parts).toList = encode b) : IsBody text := by
  refine ⟨parts, h, ?_⟩
  intro line hline c hc
  apply isBase64Char_of_mem_encode (b := b)
  rw [← spelled, String.toList_join]
  exact List.mem_flatMap.mpr ⟨line, hline, hc⟩

/-- A body is decoded to some bytes exactly if it is made of lines that make up the base64 text of the
bytes. -/
lemma decodeBody_eq_ok_iff_wrapped {body : String} {der : Bytes} :
    Armor.decodeBody body = .ok der ↔
      ∃ parts, IsWrapped body parts ∧ (String.join parts).toList = encode der := by
  rw [decodeBody_eq_ok]
  constructor
  · rintro ⟨⟨parts, wrapped, -⟩, spelled⟩
    exact ⟨parts, wrapped, by rw [← wrapped.withoutFeeds_eq, spelled]⟩
  · rintro ⟨parts, wrapped, spelled⟩
    exact ⟨wrapped.isBody spelled, by rw [wrapped.withoutFeeds_eq, spelled]⟩

lemma IsWrapped.withoutFeeds_ne {text : String} {parts : List String} (h : IsWrapped text parts) :
    withoutFeeds text ≠ [] := by
  obtain ⟨part, hpart⟩ := List.exists_mem_of_ne_nil parts h.lines_ne
  obtain ⟨c, hc⟩ := List.exists_mem_of_ne_nil part.toList (by simpa using h.line_ne part hpart)
  rw [h.withoutFeeds_eq, String.toList_join]
  exact List.ne_nil_of_mem (List.mem_flatMap.mpr ⟨part, hpart, hc⟩)

/-- A body is decoded to some bytes exactly if it is made of lines that make up the base64 text of the
bytes, wherever they break. So there is a byte at least; what is refused is a body in which the
padding does not complete the last group, or stands elsewhere, or bits are left over; and two bodies
give the same bytes exactly if they differ in line feeds only. -/
theorem decodeBody_reads_wrapped_base64 :
    (∀ body der, Armor.decodeBody body = .ok der ↔
      ∃ parts, IsWrapped body parts ∧ (String.join parts).toList = encode der) ∧
    (∀ body der, Armor.decodeBody body = .ok der → der ≠ []) ∧
    (∀ body, (∃ der, Armor.decodeBody body = .ok der) ↔ IsBody body ∧
      ∃ values padding, IsPadded values padding ∧
        withoutFeeds body = values.map symbol ++ List.replicate padding '=') ∧
    ∀ body other der others, Armor.decodeBody body = .ok der → Armor.decodeBody other = .ok others →
      (der = others ↔ withoutFeeds body = withoutFeeds other) := by
  refine ⟨fun body der => decodeBody_eq_ok_iff_wrapped, ?_, ?_, ?_⟩
  · rintro body der decoded rfl
    obtain ⟨parts, wrapped, spelled⟩ := decodeBody_eq_ok_iff_wrapped.mp decoded
    exact wrapped.withoutFeeds_ne (by rw [wrapped.withoutFeeds_eq, spelled, encode])
  · intro body
    constructor
    · rintro ⟨der, decoded⟩
      obtain ⟨isBody, spelled⟩ := decodeBody_eq_ok.mp decoded
      exact ⟨isBody, sextets der, padding der, isPadded_sextets der, by
        rw [spelled, encode_eq_sextets]⟩
    · rintro ⟨isBody, values, n, padded, spelled⟩
      obtain ⟨again, spaces⟩ := sextets_bytesOf padded
      refine ⟨bytesOf values, decodeBody_eq_ok.mpr ⟨isBody, ?_⟩⟩
      rw [spelled, encode_eq_sextets, again, spaces]
  · intro body other der others decoded also
    have spelled := (decodeBody_eq_ok.mp decoded).2
    have spelled_other := (decodeBody_eq_ok.mp also).2
    constructor
    · rintro rfl
      rw [spelled, spelled_other]
    · intro same
      rw [spelled, spelled_other, ← decode_eq_ok_iff, decode_encode_base64] at same
      cases same
      rfl

/-- Three bytes, wrapped in two ways; and one byte, with a line that ends within the padding. -/
theorem decodeBody_reads_wrapped_threeBytes :
    Armor.decodeBody "A\nQID" = .ok [1, 2, 3] ∧ Armor.decodeBody "AQ\nI\nD" = .ok [1, 2, 3] ∧
    ([1, 2, 3] : Bytes) ≠ [] ∧ withoutFeeds "A\nQID" = withoutFeeds "AQ\nI\nD" ∧
    IsBody "AQ=\n=" ∧ IsPadded [0, 16] 2 ∧ ∃ der, Armor.decodeBody "AQ=\n=" = .ok der := by
  obtain ⟨reads, filled, padded, same⟩ := decodeBody_reads_wrapped_base64
  have first := (reads "A\nQID" [1, 2, 3]).mpr
    ⟨["A", "QID"], ⟨by decide, by decide, by decide, by decide⟩, by decide⟩
  have second := (reads "AQ\nI\nD" [1, 2, 3]).mpr
    ⟨["AQ", "I", "D"], ⟨by decide, by decide, by decide, by decide⟩, by decide⟩
  have isBody : IsBody "AQ=\n=" := bodyFault_eq_none.mp (by decide)
  have whole : IsPadded [0, 16] 2 := ⟨by decide, by decide, by decide⟩
  exact ⟨first, second, filled _ _ first, (same _ _ _ _ first second).mp rfl, isBody, whole,
    (padded _).mpr ⟨isBody, _, _, whole, by decide⟩⟩

end BootstrapVoucher.Proofs
