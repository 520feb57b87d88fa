import BootstrapVoucher.Asn1.Write
import Mathlib

/-!
# Numbers in base 256

Numbers as strings of bytes, with and without a sign, and read back from them. The written form of a
whole number is the shortest one in two's complement, which is the only one that is read.
-/

namespace BootstrapVoucher.Proofs

open Asn1

lemma length_ofNatLittle (width n : Nat) : (Bytes.ofNatLittle width n).length = width := by
  induction width generalizing n with
  | zero => rfl
  | succ width ih => rw [Bytes.ofNatLittle, List.length_cons, ih]

lemma length_ofNat (width n : Nat) : (Bytes.ofNat width n).length = width := by
  rw [Bytes.ofNat, List.length_reverse, length_ofNatLittle]

lemma toNat_reverse (b : Bytes) : Bytes.toNat b.reverse = Bytes.toNatLittle b := by
  unfold Bytes.toNat Bytes.toNatLittle
  rw [List.foldl_reverse]

lemma toNatLittle_ofNatLittle (width n : Nat) :
    Bytes.toNatLittle (Bytes.ofNatLittle width n) = n % 256 ^ width := by
  induction width generalizing n with
  | zero => simp [Bytes.ofNatLittle, Bytes.toNatLittle, Nat.mod_one]
  | succ width ih =>
    have hcons : Bytes.toNatLittle (Bytes.ofNatLittle (width + 1) n) =
        Bytes.toNatLittle (Bytes.ofNatLittle width (n / 256)) * 256 + (UInt8.ofNat n).toNat := rfl
    rw [hcons, ih, UInt8.toNat_ofNat', Nat.pow_succ 256 width, Nat.mul_comm (256 ^ width) 256,
      Nat.mod_mul]
    omega

lemma toNat_ofNat (width n : Nat) : Bytes.toNat (Bytes.ofNat width n) = n % 256 ^ width := by
  rw [Bytes.ofNat, toNat_reverse, toNatLittle_ofNatLittle]

lemma toNat_dropWhile (b : Bytes) : Bytes.toNat (b.dropWhile (· == 0)) = Bytes.toNat b := by
  induction b with
  | nil => rfl
  | cons x b ih =>
    by_cases hx : x = 0
    · subst hx
      rw [List.dropWhile_cons_of_pos rfl, ih]
      rfl
    · rw [List.dropWhile_cons_of_neg (by simpa using hx)]

lemma ofNatLittle_succ (width n : Nat) : Bytes.ofNatLittle (width + 1) n =
    Bytes.ofNatLittle width n ++ [UInt8.ofNat (n / 256 ^ width)] := by
  induction width generalizing n with
  | zero => simp [Bytes.ofNatLittle]
  | succ width ih =>
    rw [Bytes.ofNatLittle, ih, Nat.div_div_eq_div_mul, ← Nat.pow_succ']
    rfl

lemma ofNat_succ (width n : Nat) :
    Bytes.ofNat (width + 1) n = UInt8.ofNat (n / 256 ^ width) :: Bytes.ofNat width n := by
  rw [Bytes.ofNat, ofNatLittle_succ, List.reverse_append]
  rfl

lemma pow_256 (k : Nat) : 256 ^ k = 2 ^ (8 * k) := by
  rw [Nat.pow_mul]

lemma lt_pow_width (n : Nat) : n < 256 ^ Bytes.width n := by
  unfold Bytes.width
  split
  · rename_i hzero
    simp [hzero]
  · calc n < 2 ^ (n.log2 + 1) := Nat.lt_log2_self
      _ ≤ 2 ^ (8 * (n.log2 / 8 + 1)) := Nat.pow_le_pow_right (by decide) (by omega)
      _ = 256 ^ (n.log2 / 8 + 1) := (pow_256 _).symm

lemma width_le {n k : Nat} (h : n < 256 ^ k) : Bytes.width n ≤ k := by
  unfold Bytes.width
  split
  · exact Nat.zero_le k
  · rename_i hzero
    rw [pow_256] at h
    have := (Nat.log2_lt hzero).mpr h
    omega

/-! ### Whole numbers -/

/-- The size of a whole number without its sign, so that the numbers of `k` bytes are those below the
half of `256 ^ k`. -/
def magnitude (n : Int) : Nat := if n < 0 then (-n - 1).toNat else n.toNat

/-- The least number of bytes that hold a whole number. -/
structure IsSizeOf (n : Int) (size : Nat) : Prop where
  positive : 0 < size
  fits : magnitude n < 2 ^ (8 * size - 1)
  least : ∀ k, size = k + 2 → 2 ^ (8 * k + 7) ≤ magnitude n

lemma magnitude_lt {n : Int} {half : Nat} : magnitude n < half ↔ -(half : Int) ≤ n ∧ n < half := by
  unfold magnitude
  split <;> omega

lemma integer_eq (n : Int) : ∃ size, IsSizeOf n size ∧
    Write.integer n = Write.element 2 (Bytes.ofNat size (n % (1 <<< (8 * size) : Nat)).toNat) := by
  let width := (magnitude n).log2 / 8 + 1
  have hwidth : magnitude n < 2 ^ (8 * width) :=
    calc magnitude n < 2 ^ ((magnitude n).log2 + 1) := Nat.lt_log2_self
      _ ≤ 2 ^ (8 * width) := Nat.pow_le_pow_right (by decide) (by omega)
  have least : ∀ k, width = k + 2 → 2 ^ (8 * k + 7) ≤ magnitude n := by
    intro k hk
    have hne : magnitude n ≠ 0 := by
      intro hzero
      simp only [width, hzero] at hk
      simp at hk
    calc 2 ^ (8 * k + 7) ≤ 2 ^ (magnitude n).log2 := Nat.pow_le_pow_right (by decide) (by omega)
      _ ≤ magnitude n := Nat.log2_self_le hne
  let half : Nat := 1 <<< (8 * width - 1)
  let size := if -(half : Int) ≤ n ∧ n < half then width else width + 1
  have written : Write.integer n =
      Write.element 2 (Bytes.ofNat size (n % (1 <<< (8 * size) : Nat)).toNat) := rfl
  have hhalf : half = 2 ^ (8 * width - 1) := Nat.one_shiftLeft _
  by_cases small : magnitude n < 2 ^ (8 * width - 1)
  · refine ⟨width, ⟨Nat.succ_pos _, small, least⟩, ?_⟩
    have hsize : size = width := if_pos (magnitude_lt.mp (hhalf ▸ small))
    rw [written, hsize]
  · refine ⟨width + 1, ⟨Nat.succ_pos _, ?_, fun k hk => ?_⟩, ?_⟩
    · calc magnitude n < 2 ^ (8 * width) := hwidth
        _ ≤ 2 ^ (8 * (width + 1) - 1) := Nat.pow_le_pow_right (by decide) (by omega)
    · calc 2 ^ (8 * k + 7) = 2 ^ (8 * width - 1) := by congr 1; omega
        _ ≤ magnitude n := Nat.le_of_not_lt small
    · have hsize : size = width + 1 := if_neg fun inside => small (hhalf ▸ magnitude_lt.mpr inside)
      rw [written, hsize]

lemma bmod_emod {n : Int} {half : Nat} (h : -(half : Int) ≤ n ∧ n < half) :
    Int.bmod (n % (2 * half : Nat)).toNat (2 * half) = n := by
  have hpos : (0 : Int) < (2 * half : Nat) := by omega
  have hnonneg := Int.emod_nonneg n (ne_of_gt hpos)
  rw [Int.toNat_of_nonneg hnonneg, Int.emod_bmod, Int.bmod_eq_of_le (by omega) (by omega)]

/-- Below its half, a whole number is itself; above, it stands for a negative one. -/
lemma toNat_emod {n : Int} {all : Nat} (h : -(all : Int) ≤ n ∧ n < all) :
    0 ≤ n ∧ ((n % all).toNat : Int) = n ∨ n < 0 ∧ ((n % all).toNat : Int) = n + all := by
  by_cases sign : 0 ≤ n
  · rw [Int.emod_eq_of_lt sign h.2, Int.toNat_of_nonneg sign]
    exact .inl ⟨sign, rfl⟩
  · rw [← Int.add_emod_right, Int.emod_eq_of_lt (by omega) (by omega), Int.toNat_of_nonneg (by omega)]
    exact .inr ⟨by omega, rfl⟩

/-- The first two bytes of a number that is as short as possible do not just repeat the sign. -/
lemma leading_digits {n : Int} {p : Nat} (hp : 0 < p)
    (range : -((32768 * p : Nat) : Int) ≤ n ∧ n < (32768 * p : Nat))
    (outside : ¬(-((128 * p : Nat) : Int) ≤ n ∧ n < (128 * p : Nat))) :
    let q := (n % (65536 * p : Nat)).toNat / p
    128 ≤ q ∧ q < 65408 := by
  intro q
  have inside : -((65536 * p : Nat) : Int) ≤ n ∧ n < (65536 * p : Nat) := by omega
  have hN := toNat_emod inside
  have below : q * p ≤ (n % (65536 * p : Nat)).toNat := Nat.div_mul_le_self _ _
  have above : (n % (65536 * p : Nat)).toNat < (q + 1) * p := 
    (Nat.div_lt_iff_lt_mul hp).mp (Nat.lt_succ_self q)
  constructor
  · by_contra low
    have : (q + 1) * p ≤ 128 * p := Nat.mul_le_mul_right p (by omega)
    omega
  · by_contra high
    have : 65408 * p ≤ q * p := Nat.mul_le_mul_right p (by omega)
    omega

lemma integerOf?_long {x y : UInt8} {b : Bytes}
    (h : ¬(x = 0 ∧ y < 128 ∨ x = 255 ∧ 128 ≤ y)) : Element.integerOf? (x :: y :: b) =
      some (Int.bmod (Bytes.toNat (x :: y :: b)) (1 <<< (8 * (x :: y :: b).length))) := by
  unfold Element.integerOf?
  simp only
  rw [if_neg]
  simpa using h

/-- Numbers that are as short as possible are read as what they are. -/
lemma integerOf?_ofNat {n : Int} {size : Nat} (h : IsSizeOf n size) :
    Element.integerOf? (Bytes.ofNat size (n % (1 <<< (8 * size) : Nat)).toNat) = some n := by
  obtain ⟨positive, fits, least⟩ := h
  rw [Nat.one_shiftLeft, ← pow_256]
  match size with
  | 1 =>
    have value := bmod_emod (magnitude_lt.mp fits)
    have small : (n % (256 : Nat)).toNat < 256 := by omega
    rw [ofNat_succ, Nat.pow_zero, Nat.div_one]
    change some (Int.bmod ((UInt8.ofNat (n % (256 : Nat)).toNat).toNat : Int) 256) = some n
    rw [UInt8.toNat_ofNat', Nat.mod_eq_of_lt small]
    exact congrArg some value
  | k + 2 =>
    have hhalf : 2 ^ (8 * (k + 2) - 1) = 32768 * 256 ^ k := by
      rw [pow_256, show 8 * (k + 2) - 1 = 8 * k + 15 by omega, pow_add]
      omega
    have hleast : 2 ^ (8 * k + 7) = 128 * 256 ^ k := by
      rw [pow_256, pow_add]
      omega
    have hall : 256 ^ (k + 2) = 65536 * 256 ^ k := by
      rw [pow_add]
      omega
    have hpow : 0 < 256 ^ k := Nat.pow_pos (by decide)
    have range := magnitude_lt.mp (hhalf ▸ fits)
    have outside := mt magnitude_lt.mpr (Nat.not_lt.mpr (hleast ▸ least k rfl))
    have leading := leading_digits hpow range outside
    have value := bmod_emod range
    have bound : (n % (65536 * 256 ^ k : Nat)).toNat < 256 ^ (k + 2) := by
      have := Int.emod_lt_of_pos n (show (0 : Int) < (65536 * 256 ^ k : Nat) by omega)
      omega
    have hdouble : 2 * (32768 * 256 ^ k) = 65536 * 256 ^ k := by omega
    rw [hall]
    rw [hdouble] at value
    generalize (n % (65536 * 256 ^ k : Nat)).toNat = N at leading value bound ⊢
    have hlength := length_ofNat (k + 2) N
    have hvalue : Bytes.toNat (Bytes.ofNat (k + 2) N) = N := by
      rw [toNat_ofNat, Nat.mod_eq_of_lt bound]
    have hfirst : N / 256 ^ (k + 1) = N / 256 ^ k / 256 := by
      rw [pow_succ, Nat.div_div_eq_div_mul]
    rw [ofNat_succ, ofNat_succ, hfirst] at hlength hvalue ⊢
    generalize N / 256 ^ k = q at leading hlength hvalue ⊢
    have unsigned : ¬(UInt8.ofNat (q / 256) = 0 ∧ UInt8.ofNat q < 128 ∨
        UInt8.ofNat (q / 256) = 255 ∧ 128 ≤ UInt8.ofNat q) := by
      simp only [← UInt8.toNat_inj, UInt8.lt_iff_toNat_lt, UInt8.le_iff_toNat_le, UInt8.toNat_ofNat']
      change ¬(q / 256 % 256 = 0 ∧ q % 256 < 128 ∨ q / 256 % 256 = 255 ∧ 128 ≤ q % 256)
      omega
    rw [integerOf?_long unsigned, hvalue, hlength, Nat.one_shiftLeft, ← pow_256, hall, value]

/-- A whole number is read from its written form. -/
lemma integer?_written (n : Int) : ∃ b, Write.integer n = Write.element 2 b ∧
    Element.integerOf? b = some n := by
  obtain ⟨size, hsize, written⟩ := integer_eq n
  exact ⟨_, written, integerOf?_ofNat hsize⟩

end BootstrapVoucher.Proofs
