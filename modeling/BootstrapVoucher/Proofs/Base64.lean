import BootstrapVoucher.Base64
import Mathlib.Data.List.Basic

/-!
# Base64 texts are read back

Both directions of base64 go through the six-bit values of the symbols. Encoding prints the values of
a byte string and pads them; such a text has no fault, and its values give the bytes back.
-/

namespace BootstrapVoucher.Proofs

open Base64

/-- The values of the symbols of a byte string, the last one filled up with zero bits. -/
def sextets : Bytes → List Nat
  | [] => []
  | [a] => [a.toNat * 16 / 64, a.toNat * 16 % 64]
  | [a, b] =>
    let n := (a.toNat * 256 + b.toNat) * 4
    [n / 4096, n / 64 % 64, n % 64]
  | a :: b :: c :: rest =>
    let n := (a.toNat * 256 + b.toNat) * 256 + c.toNat
    n / 262144 :: n / 4096 % 64 :: n / 64 % 64 :: n % 64 :: sextets rest

/-- The number of padding characters that follow the symbols. -/
def padding (b : Bytes) : Nat := (3 - b.length % 3) % 3

/-- Values with their padding make full groups of four, and no bit is left over. -/
structure IsPadded (values : List Nat) (padding : Nat) : Prop where
  small : ∀ v ∈ values, v < 64
  grouped : values.length % 4 = 0 ∧ padding = 0 ∨ values.length % 4 = 2 ∧ padding = 2 ∨
    values.length % 4 = 3 ∧ padding = 1
  spare : spareBits values.length (values.getLastD 0) = 0

/-! ### Symbols -/

lemma value_symbol {v : Nat} (h : v < 64) : value? (symbol v) = some v := by
  revert v
  decide

lemma value_equals : value? '=' = none := rfl

lemma symbol_ne_equals {v : Nat} (h : v < 64) : symbol v ≠ '=' := by
  intro heq
  have hvalue := value_symbol h
  rw [heq, value_equals] at hvalue
  cases hvalue

/-- The codes of the symbols. -/
lemma toNat_of_value {c : Char} {v : Nat} (h : value? c = some v) :
    (65 ≤ c.toNat ∧ c.toNat ≤ 90) ∨ (97 ≤ c.toNat ∧ c.toNat ≤ 122) ∨
      (47 ≤ c.toNat ∧ c.toNat ≤ 57) ∨ c.toNat = 43 := by
  have hplus : '+'.toNat = 43 := rfl
  have hslash : '/'.toNat = 47 := rfl
  simp only [value?] at h
  split at h
  · omega
  · split at h
    · omega
    · split at h
      · omega
      · split at h
        · rename_i plus
          subst plus
          omega
        · split at h
          · rename_i slash
            subst slash
            omega
          · cases h

/-! ### What is encoded -/

lemma padding_cons (a b c : UInt8) (rest : Bytes) :
    padding (a :: b :: c :: rest) = padding rest := by
  simp only [padding, List.length_cons]
  omega

lemma encode_eq_sextets (b : Bytes) :
    encode b = (sextets b).map symbol ++ List.replicate (padding b) '=' := by
  induction b using sextets.induct with
  | case1 => rfl
  | case2 a => rfl
  | case3 a b => rfl
  | case4 a b c rest ih =>
    rw [encode, sextets, padding_cons, ih]
    rfl

lemma ofNat_eq {n : Nat} {x : UInt8} (h : n % 256 = x.toNat) : UInt8.ofNat n = x := by
  apply UInt8.toNat_inj.mp
  rw [UInt8.toNat_ofNat', h]

lemma bytesOf_sextets (b : Bytes) : bytesOf (sextets b) = b := by
  induction b using sextets.induct with
  | case1 => rfl
  | case2 a =>
    have ha := a.toNat_lt
    rw [sextets, bytesOf]
    congr 1
    exact ofNat_eq (by omega)
  | case3 a b =>
    have ha := a.toNat_lt
    have hb := b.toNat_lt
    simp only [sextets, bytesOf]
    congr 2
    · exact ofNat_eq (by omega)
    · exact ofNat_eq (by omega)
  | case4 a b c rest ih =>
    have ha := a.toNat_lt
    have hb := b.toNat_lt
    have hc := c.toNat_lt
    simp only [sextets, bytesOf]
    rw [ih]
    congr 3
    · exact ofNat_eq (by omega)
    · exact ofNat_eq (by omega)
    · exact ofNat_eq (by omega)

/-- A group of four symbols at the front has no part in the padding. -/
lemma isPadded_group {values : List Nat} {padding p q r s : Nat} :
    IsPadded (p :: q :: r :: s :: values) padding ↔
      (p < 64 ∧ q < 64 ∧ r < 64 ∧ s < 64) ∧ IsPadded values padding := by
  have hlength : (p :: q :: r :: s :: values).length % 4 = values.length % 4 := by
    simp only [List.length_cons]
    omega
  have hspare : spareBits (p :: q :: r :: s :: values).length
      ((p :: q :: r :: s :: values).getLastD 0) =
        spareBits values.length (values.getLastD 0) := by
    unfold spareBits
    rw [hlength]
    cases values with
    | nil => rfl
    | cons v values => rfl
  constructor
  · intro h
    have small := h.small
    simp only [List.forall_mem_cons] at small
    obtain ⟨hp, hq, hr, hs, hvalues⟩ := small
    exact ⟨⟨hp, hq, hr, hs⟩, hvalues, by rw [← hlength]; exact h.grouped, hspare ▸ h.spare⟩
  · rintro ⟨⟨hp, hq, hr, hs⟩, h⟩
    refine ⟨by simpa using ⟨hp, hq, hr, hs, h.small⟩, by rw [hlength]; exact h.grouped, ?_⟩
    rw [hspare]
    exact h.spare

lemma isPadded_sextets (b : Bytes) : IsPadded (sextets b) (padding b) := by
  induction b using sextets.induct with
  | case1 => exact ⟨by simp [sextets], .inl ⟨rfl, rfl⟩, rfl⟩
  | case2 a =>
    have ha := a.toNat_lt
    refine ⟨?_, .inr (.inl ⟨rfl, rfl⟩), ?_⟩
    · simp only [sextets, List.mem_cons, List.not_mem_nil, or_false]
      omega
    · simp [sextets, spareBits]
  | case3 a b =>
    have ha := a.toNat_lt
    have hb := b.toNat_lt
    refine ⟨?_, .inr (.inr ⟨rfl, rfl⟩), ?_⟩
    · simp only [sextets, List.mem_cons, List.not_mem_nil, or_false]
      omega
    · simp [sextets, spareBits]
  | case4 a b c rest ih =>
    have ha := a.toNat_lt
    have hb := b.toNat_lt
    have hc := c.toNat_lt
    rw [sextets, padding_cons]
    exact isPadded_group.mpr ⟨⟨by omega, by omega, by omega, by omega⟩, ih⟩

/-- A base64 text has symbols and padding characters only. -/
lemma value_of_mem_encode {b : Bytes} {c : Char} (h : c ∈ encode b) :
    (value? c).isSome = true ∨ c = '=' := by
  rw [encode_eq_sextets, List.mem_append, List.mem_map] at h
  rcases h with ⟨v, hv, rfl⟩ | h
  · left
    rw [value_symbol ((isPadded_sextets b).small v hv), Option.isSome_some]
  · right
    exact List.eq_of_mem_replicate h

/-! ### What is decoded -/

section Padded

variable {symbols : List Char} {p : Char → Bool} (hsymbols : ∀ c ∈ symbols, p c = true)
  (hequals : p '=' = false)

include hsymbols hequals

lemma takeWhile_padded (n : Nat) : (symbols ++ List.replicate n '=').takeWhile p = symbols := by
  rw [List.takeWhile_append_of_pos hsymbols, List.takeWhile_replicate, hequals]
  simp

lemma dropWhile_padded (n : Nat) :
    (symbols ++ List.replicate n '=').dropWhile p = List.replicate n '=' := by
  rw [List.dropWhile_append_of_pos hsymbols, List.dropWhile_replicate, hequals]
  simp

end Padded

lemma IsPadded.length_mod {values : List Nat} {padding : Nat} (h : IsPadded values padding) :
    (values.map symbol ++ List.replicate padding '=').length % 4 = 0 := by
  have grouped := h.grouped
  rw [List.length_append, List.length_map, List.length_replicate]
  omega

lemma value_getLastD {values : List Nat} (small : ∀ v ∈ values, v < 64) :
    (value? ((values.map symbol).getLastD '=')).getD 0 = values.getLastD 0 := by
  cases hvalues : values.getLast? with
  | none =>
    rw [List.getLast?_eq_none_iff] at hvalues
    subst hvalues
    rfl
  | some v =>
    have hv := small v (List.mem_of_getLast? hvalues)
    rw [List.getLastD_eq_getLast?, List.getLastD_eq_getLast?, List.getLast?_map, hvalues]
    simp [value_symbol hv]

lemma fault_of_isPadded {values : List Nat} {padding : Nat} (h : IsPadded values padding) :
    fault? (values.map symbol ++ List.replicate padding '=') = none := by
  have hsymbols : ∀ c ∈ values.map symbol, (value? c).isSome = true := by
    intro c hc
    obtain ⟨v, hv, rfl⟩ := List.mem_map.mp hc
    rw [value_symbol (h.small v hv), Option.isSome_some]
  have htake := takeWhile_padded hsymbols rfl padding
  have hdrop := dropWhile_padded hsymbols rfl padding
  have hlast := value_getLastD h.small
  -- every character is a symbol or padding, so the length and the last symbol are left to fail
  unfold fault?
  simp only [htake, hdrop, h.length_mod, hlast, List.length_map, h.spare]
  obtain ⟨hgroup, rfl⟩ | ⟨hgroup, rfl⟩ | ⟨hgroup, rfl⟩ := h.grouped
  · rfl
  · simp [hgroup]
  · simp [hgroup]

lemma filterMap_value_symbol {values : List Nat} (h : ∀ v ∈ values, v < 64) :
    (values.map symbol).filterMap value? = values := by
  rw [List.filterMap_map]
  exact (List.filterMap_congr fun v hv => value_symbol (h v hv)).trans List.filterMap_some

lemma filterMap_value_padded {values : List Nat} (h : ∀ v ∈ values, v < 64) (padding : Nat) :
    (values.map symbol ++ List.replicate padding '=').filterMap value? = values := by
  have hpadding : (List.replicate padding '=').filterMap value? = [] :=
    List.filterMap_eq_nil_iff.mpr fun c hc => by rw [List.eq_of_mem_replicate hc, value_equals]
  rw [List.filterMap_append, filterMap_value_symbol h, hpadding, List.append_nil]

/-- Every byte string is read back from its base64 text. -/
lemma decode_encode_base64 (b : Bytes) : decode (encode b) = .ok b := by
  have padded := isPadded_sextets b
  rw [encode_eq_sextets, decode, fault_of_isPadded padded]
  simp only
  rw [filterMap_value_padded padded.small, bytesOf_sextets]

end BootstrapVoucher.Proofs
