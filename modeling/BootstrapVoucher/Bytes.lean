/-!
# Byte strings

A byte string is a list of bytes, first byte first. This file holds the few operations that every
layer needs: the UTF-8 form of a text, hexadecimal text, and numbers written in base 256.
-/

namespace BootstrapVoucher

/-- A string of bytes, first byte first. -/
abbrev Bytes := List UInt8

namespace Bytes

def ofText (s : String) : Bytes := s.toUTF8.data.toList

/-- The text whose UTF-8 form is `b`, if there is one. -/
def toText? (b : Bytes) : Option String := String.fromUTF8? b.toByteArray

/-- The number that `b` writes in base 256, most significant byte first. -/
def toNat (b : Bytes) : Nat := b.foldl (fun n x => n * 256 + x.toNat) 0

/-- The number that `b` writes in base 256, least significant byte first. -/
def toNatLittle (b : Bytes) : Nat := b.foldr (fun x n => n * 256 + x.toNat) 0

/-- The lowest `width` bytes of `n`, least significant byte first. -/
def ofNatLittle : (width : Nat) → (n : Nat) → Bytes
  | 0, _ => []
  | width + 1, n => UInt8.ofNat n :: ofNatLittle width (n / 256)

/-- The lowest `width` bytes of `n`, most significant byte first. -/
def ofNat (width n : Nat) : Bytes := (ofNatLittle width n).reverse

/-- The number of bytes that the base-256 form of `n` needs; zero needs none. -/
def width (n : Nat) : Nat := if n = 0 then 0 else n.log2 / 8 + 1

/-- The consecutive pieces of `size` bytes; the last one may be shorter. -/
def pieces (size : Nat) (b : Bytes) : List Bytes :=
  if size = 0 ∨ b = [] then [] else b.take size :: pieces size (b.drop size)
termination_by b.length
decreasing_by
  rename_i h
  have : 0 < b.length := List.length_pos_iff.2 fun empty => h (.inr empty)
  rw [List.length_drop]
  omega

/-- The bytes in which exactly one of two strings of one length has a one, bit by bit. -/
def xor (a b : Bytes) : Bytes := List.zipWith (· ^^^ ·) a b

def hexDigit (n : Nat) : Char := Nat.digitChar n

/-- Two lower-case hexadecimal digits for each byte. -/
def toHex (b : Bytes) : String :=
  String.ofList (b.flatMap fun x => [hexDigit (x.toNat / 16), hexDigit (x.toNat % 16)])

/-- The value of a hexadecimal digit of either case, given as a byte. -/
def hexValue? (x : UInt8) : Option Nat :=
  if 48 ≤ x && x ≤ 57 then some (x.toNat - 48)
  else if 97 ≤ x && x ≤ 102 then some (x.toNat - 87)
  else if 65 ≤ x && x ≤ 70 then some (x.toNat - 55)
  else none

theorem toText?_ofText (s : String) : toText? (ofText s) = some s := by
  have h : (ofText s).toByteArray = s.toByteArray := by
    apply ByteArray.ext
    simp [ofText, List.data_toByteArray]
  unfold toText?
  rw [h]
  unfold String.fromUTF8?
  rw [dif_pos s.isValidUTF8]
  rfl

theorem ofText_of_toText? {b : Bytes} {s : String} (h : toText? b = some s) : ofText s = b := by
  unfold toText? String.fromUTF8? at h
  split at h
  · cases h
    simp [ofText, String.fromUTF8, List.data_toByteArray]
  · cases h

theorem ofText_injective {s t : String} (h : ofText s = ofText t) : s = t := by
  have := toText?_ofText s
  rw [h, toText?_ofText] at this
  exact (Option.some.inj this).symm

end Bytes

end BootstrapVoucher
