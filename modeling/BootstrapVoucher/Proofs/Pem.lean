import BootstrapVoucher.Pem
import BootstrapVoucher.Proofs.ArmoredText
import BootstrapVoucher.Proofs.Base64

/-!
# The text of a PEM block

A block is written in lines of 64 base64 symbols, of which the last one may be shorter. The armour
of a voucher takes such a text apart: what is stripped of it has the lines with their line feeds in
between, and decodes to the bytes that were written.
-/

namespace BootstrapVoucher.Proofs

open Pem

/-! ### Pieces -/

lemma flatten_pieces {size : Nat} (h : 0 < size) (b : Bytes) :
    (Bytes.pieces size b).flatten = b := by
  induction b using Bytes.pieces.induct size with
  | case1 b hb =>
    rw [Bytes.pieces, if_pos hb]
    rcases hb with hb | rfl
    · omega
    · rfl
  | case2 b hb ih =>
    rw [Bytes.pieces, if_neg hb, List.flatten_cons, ih, List.take_append_drop]

lemma length_of_mem_pieces {size : Nat} {b piece : Bytes} (h : piece ∈ Bytes.pieces size b) :
    piece ≠ [] ∧ piece.length ≤ size := by
  induction b using Bytes.pieces.induct size with
  | case1 b hb =>
    rw [Bytes.pieces, if_pos hb] at h
    cases h
  | case2 b hb ih =>
    rw [Bytes.pieces, if_neg hb, List.mem_cons] at h
    rcases h with rfl | h
    · refine ⟨?_, List.length_take_le size b⟩
      rw [Ne, List.take_eq_nil_iff]
      exact hb
    · exact ih h

/-! ### The text of a block -/

/-- A byte is the code of a base64 symbol or of a padding character. -/
def IsBase64Byte (x : UInt8) : Prop :=
  (Base64.value? (Char.ofNat x.toNat)).isSome = true ∨ Char.ofNat x.toNat = '='

/-- A line of base64 text, without its line feed. -/
structure IsBodyLine (line : Bytes) : Prop where
  nonempty : line ≠ []
  short : line.length ≤ 64
  symbols : ∀ x ∈ line, IsBase64Byte x

def base64Bytes (data : Bytes) : Bytes := (Base64.encode data).map fun c => UInt8.ofNat c.toNat

/-- The lines of the block that holds a byte string. -/
def bodyLines (data : Bytes) : List Bytes := Bytes.pieces 64 (base64Bytes data)

def charsOf (b : Bytes) : List Char := b.map fun x => Char.ofNat x.toNat

lemma toNat_charOf (x : UInt8) : (Char.ofNat x.toNat).toNat = x.toNat := by
  have hx := x.toNat_lt
  rw [Char.toNat_ofNat, if_pos (.inl (by omega))]

lemma IsBase64Byte.code {x : UInt8} (h : IsBase64Byte x) :
    43 ≤ x.toNat ∧ x.toNat ≤ 122 ∧ x.toNat ≠ 45 ∧ x.toNat ≠ 58 := by
  have hcode := toNat_charOf x
  rcases h with h | h
  · obtain ⟨v, hv⟩ := Option.isSome_iff_exists.mp h
    have codes := toNat_of_value hv
    rw [hcode] at codes
    omega
  · rw [h] at hcode
    change 61 = x.toNat at hcode
    omega

lemma char_of_mem_encode {data : Bytes} {c : Char} (h : c ∈ Base64.encode data) :
    Char.ofNat (UInt8.ofNat c.toNat).toNat = c := by
  have hcode : c.toNat < 256 := by
    rcases value_of_mem_encode h with h | rfl
    · obtain ⟨v, hv⟩ := Option.isSome_iff_exists.mp h
      have codes := toNat_of_value hv
      omega
    · decide
  rw [UInt8.toNat_ofNat_of_lt' hcode, Char.ofNat_toNat]

lemma charsOf_base64Bytes (data : Bytes) : charsOf (base64Bytes data) = Base64.encode data := by
  rw [charsOf, base64Bytes, List.map_map]
  exact (List.map_congr_left fun c hc => char_of_mem_encode hc).trans (List.map_id _)

lemma isBase64Byte_of_mem {data : Bytes} {x : UInt8} (h : x ∈ base64Bytes data) :
    IsBase64Byte x := by
  obtain ⟨c, hc, rfl⟩ := List.mem_map.mp h
  rw [IsBase64Byte, char_of_mem_encode hc]
  exact value_of_mem_encode hc

lemma flatten_bodyLines (data : Bytes) : (bodyLines data).flatten = base64Bytes data :=
  flatten_pieces (by decide) _

lemma isBodyLine_bodyLines (data : Bytes) : ∀ line ∈ bodyLines data, IsBodyLine line := by
  intro line h
  have hlength := length_of_mem_pieces h
  refine ⟨hlength.1, hlength.2, ?_⟩
  intro x hx
  have hmem := List.mem_flatten_of_mem h hx
  rw [flatten_bodyLines] at hmem
  exact isBase64Byte_of_mem hmem

lemma toList_write (data : Bytes) : (write "CERTIFICATE" data).toList =
    Armor.header.toList ++ '\n' :: ((bodyLines data).flatMap fun line => charsOf line ++ ['\n']) ++
      Armor.footer.toList ++ ['\n'] := by
  have hlines : (String.join ((bodyLines data).map fun line =>
      String.ofList (charsOf line) ++ "\n")).toList =
      (bodyLines data).flatMap fun line => charsOf line ++ ['\n'] := by
    rw [String.toList_join, List.flatMap_map]
    simp
  have htext : write "CERTIFICATE" data = "-----BEGIN " ++ "CERTIFICATE" ++ "-----\n" ++
      String.join ((bodyLines data).map fun line => String.ofList (charsOf line) ++ "\n") ++
      "-----END " ++ "CERTIFICATE" ++ "-----\n" := rfl
  rw [htext]
  simp only [String.toList_append, hlines]
  simp [Armor.header, Armor.footer]

/-! ### The armour -/

lemma filter_bodyLines (data : Bytes) :
    ((bodyLines data).flatMap fun line => charsOf line ++ ['\n']).filter (· != '\n') =
      Base64.encode data := by
  have hline : ∀ line ∈ bodyLines data,
      (charsOf line ++ ['\n']).filter (· != '\n') = charsOf line := by
    intro line h
    have hchars : ∀ c ∈ charsOf line, (c != '\n') = true := by
      intro c hc
      obtain ⟨x, hx, rfl⟩ := List.mem_map.mp hc
      have hcode := ((isBodyLine_bodyLines data line h).symbols x hx).code
      rw [bne_iff_ne]
      intro feed
      have hfeed := congrArg Char.toNat feed
      rw [toNat_charOf] at hfeed
      change x.toNat = 10 at hfeed
      omega
    rw [List.filter_append, List.filter_eq_self.mpr hchars]
    simp
  rw [List.filter_flatMap, List.flatMap_congr hline, ← charsOf_base64Bytes, ← flatten_bodyLines,
    charsOf, List.map_flatten]
  rfl

/-- What is stripped of a written certificate decodes to the certificate. -/
lemma decodeBody_of_strip_write {data : Bytes} {body : String}
    (h : Armor.strip (write "CERTIFICATE" data) = .ok body) : Armor.decodeBody body = .ok data := by
  obtain ⟨faultless, framed⟩ := framed_of_strip h
  rw [toList_write] at framed
  have hbody : (bodyLines data).flatMap (fun line => charsOf line ++ ['\n']) =
      body.toList ++ ['\n'] := by
    rcases framed with framed | framed
    · have hback := dropBack_eq_some.mpr framed.symm
      rw [frame, dropBack_lineFeed_frame] at hback
      cases hback
    · have hframe : (bodyLines data).flatMap (fun line => charsOf line ++ ['\n']) ++
          (Armor.footer.toList ++ ['\n']) =
            (body.toList ++ ['\n']) ++ (Armor.footer.toList ++ ['\n']) := by
        simpa [frame] using framed
      exact List.append_cancel_right hframe
  have hsymbols := filter_bodyLines data
  rw [hbody, List.filter_append] at hsymbols
  have hfeed : ['\n'].filter (· != '\n') = [] := rfl
  rw [hfeed, List.append_nil] at hsymbols
  rw [decodeBody_of_faultless faultless, hsymbols, decode_encode_base64, Except.mapError]

end BootstrapVoucher.Proofs
