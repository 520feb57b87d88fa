import BootstrapVoucher.Proofs.Outcome
import BootstrapVoucher.Time.DateAndTime

/-!
# Decimal digits in bytes

Numbers of a fixed width are written as that many digits, and bytes that are read as a number are the
digits of that number. So whatever is read as a number was written for it.
-/

namespace BootstrapVoucher.Proofs

open Time Time.DateAndTime
open Text (digitValue?)

/-! ### Digits that are written -/

lemma ofText_ofList (cs : List Char) :
    Bytes.ofText (String.ofList cs) = cs.flatMap String.utf8EncodeChar := by
  simp [Bytes.ofText, List.utf8Encode]

/-- The bytes of the lowest `width` decimal digits of a number. -/
def digitBytes : (width n : Nat) → Bytes
  | 0, _ => []
  | width + 1, n => digitBytes width (n / 10) ++ [UInt8.ofNat (48 + n % 10)]

lemma length_digitBytes (width n : Nat) : (digitBytes width n).length = width := by
  induction width generalizing n with
  | zero => rfl
  | succ width ih => simp [digitBytes, ih]

lemma utf8_fixedDigits (width n : Nat) :
    (Text.fixedDigits width n).flatMap String.utf8EncodeChar = digitBytes width n := by
  have digit : ∀ k : Fin 10, String.utf8EncodeChar (Nat.digitChar k) = [UInt8.ofNat (48 + k)] := by
    decide
  induction width generalizing n with
  | zero => rfl
  | succ width ih =>
    rw [Text.fixedDigits, List.flatMap_append, ih, digitBytes, List.flatMap_singleton]
    exact congrArg _ (digit ⟨n % 10, Nat.mod_lt _ (by decide)⟩)

lemma digitValue_digit (n : Nat) : Text.digitValue? (UInt8.ofNat (48 + n % 10)) = some (n % 10) := by
  have h : ∀ k : Fin 10, Text.digitValue? (UInt8.ofNat (48 + k)) = some k.val := by
    decide
  exact h ⟨n % 10, Nat.mod_lt _ (by decide)⟩

lemma digitBytes_all (width n : Nat) :
    ∀ x ∈ digitBytes width n, (Text.digitValue? x).isSome = true := by
  induction width generalizing n with
  | zero => simp [digitBytes]
  | succ width ih =>
    intro x hx
    rw [digitBytes, List.mem_append, List.mem_singleton] at hx
    rcases hx with hx | rfl
    · exact ih _ x hx
    · rw [digitValue_digit]
      rfl

lemma take_digitBytes (width n : Nat) (s : Bytes) : (digitBytes width n ++ s).take width =
    digitBytes width n := by
  have h := length_digitBytes width n
  rw [List.take_append_of_le_length (by omega), List.take_of_length_le (by omega)]

lemma drop_digitBytes (width n : Nat) (s : Bytes) : (digitBytes width n ++ s).drop width = s := by
  have h := length_digitBytes width n
  rw [List.drop_append_of_le_length (by omega), List.drop_of_length_le (by omega), List.nil_append]

lemma spanDigits_digitBytes (width n : Nat) (x : UInt8) (hx : (Text.digitValue? x).isSome = false)
    (s : Bytes) :
    DateAndTime.spanDigits (digitBytes width n ++ x :: s) = (digitBytes width n, x :: s) := by
  have h := digitBytes_all width n
  unfold DateAndTime.spanDigits
  rw [List.span_eq_takeWhile_dropWhile, List.takeWhile_append_of_pos h, List.dropWhile_append_of_pos h,
    List.takeWhile_cons, List.dropWhile_cons, hx]
  simp

/-- The first digits of a longer number are the number without its last digits. -/
lemma take_digitBytes_add (width more n : Nat) :
    (digitBytes (width + more) n).take width = digitBytes width (n / 10 ^ more) := by
  induction more generalizing n with
  | zero => simp [List.take_of_length_le (length_digitBytes width n).le]
  | succ more ih =>
    have inside : width ≤ (digitBytes (width + more) (n / 10)).length := by
      rw [length_digitBytes]
      omega
    rw [← Nat.add_assoc, digitBytes, List.take_append_of_le_length inside, ih, Nat.div_div_eq_div_mul,
      ← Nat.pow_succ']

/-! ### Digits that are read -/

lemma digitValue_eq_some {x : UInt8} {d : Nat} (h : digitValue? x = some d) :
    d < 10 ∧ x = UInt8.ofNat (48 + d) := by
  unfold digitValue? at h
  split at h
  · rename_i hx
    cases h
    simp only [Bool.and_eq_true, decide_eq_true_eq, UInt8.le_iff_toNat_le] at hx
    have low : 48 ≤ x.toNat := hx.1
    have high : x.toNat ≤ 57 := hx.2
    refine ⟨by omega, ?_⟩
    rw [show 48 + (x.toNat - 48) = x.toNat by omega, UInt8.ofNat_toNat]
  · cases h

/-- The last digit is the one that counts least. -/
lemma number_concat {b : Bytes} {x : UInt8} {n : Nat} : number (b ++ [x]) = .ok n ↔
    ∃ m d, number b = .ok m ∧ digitValue? x = some d ∧ n = 10 * m + d := by
  unfold number
  rw [List.foldlM_append, bind_eq_ok]
  constructor
  · rintro ⟨m, front, h⟩
    rw [List.foldlM_cons, bind_eq_ok] at h
    obtain ⟨k, last, h⟩ := h
    cases h
    split at last
    · rename_i d value
      cases last
      exact ⟨m, d, front, value, rfl⟩
    · cases last
  · rintro ⟨m, d, front, value, rfl⟩
    refine ⟨m, front, ?_⟩
    rw [List.foldlM_cons, value]
    rfl

lemma number_digitBytes (width n : Nat) (h : n < 10 ^ width) :
    number (digitBytes width n) = .ok n := by
  induction width generalizing n with
  | zero =>
    have none : n = 0 := by simpa using h
    subst none
    rfl
  | succ width ih =>
    have front : n / 10 < 10 ^ width := by
      rw [Nat.pow_succ] at h
      omega
    rw [digitBytes, number_concat]
    exact ⟨n / 10, n % 10, ih _ front, digitValue_digit n, by omega⟩

/-- Nothing is a number of its digits but the digits of that number. -/
lemma number_eq_ok {b : Bytes} {n : Nat} :
    number b = .ok n ↔ n < 10 ^ b.length ∧ b = digitBytes b.length n := by
  constructor
  · intro h
    induction b using List.reverseRecOn generalizing n with
    | nil =>
      cases h
      exact ⟨by decide, rfl⟩
    | append_singleton b x ih =>
      obtain ⟨m, d, front, last, rfl⟩ := number_concat.mp h
      obtain ⟨bound, digits⟩ := ih front
      obtain ⟨small, digit⟩ := digitValue_eq_some last
      rw [List.length_append, List.length_singleton, Nat.pow_succ]
      refine ⟨by omega, ?_⟩
      rw [digitBytes, show (10 * m + d) / 10 = m by omega, show (10 * m + d) % 10 = d by omega,
        ← digits, ← digit]
  · rintro ⟨bound, digits⟩
    rw [digits]
    exact number_digitBytes _ _ bound

lemma exists_number {b : Bytes} (h : ∀ x ∈ b, (digitValue? x).isSome = true) :
    ∃ n, number b = .ok n := by
  induction b using List.reverseRecOn with
  | nil => exact ⟨0, rfl⟩
  | append_singleton b x ih =>
    obtain ⟨n, front⟩ := ih fun y hy => h y (List.mem_append_left _ hy)
    obtain ⟨d, last⟩ := Option.isSome_iff_exists.mp (h x (by simp))
    exact ⟨10 * n + d, number_concat.mpr ⟨n, d, front, last, rfl⟩⟩

/-- A number of some digits that is followed by something. -/
lemma split_number {width n : Nat} {s : Bytes} (h : number (s.take width) = .ok n)
    (more : s.drop width ≠ []) : n < 10 ^ width ∧ s = digitBytes width n ++ s.drop width := by
  have length : (s.take width).length = width := by
    rw [List.length_take]
    rw [ne_eq, List.drop_eq_nil_iff] at more
    omega
  obtain ⟨bound, digits⟩ := number_eq_ok.mp h
  rw [length] at bound digits
  refine ⟨bound, ?_⟩
  rw [← digits, List.take_append_drop]

lemma spanDigits_split (s : Bytes) : ∃ front after, DateAndTime.spanDigits s = (front, after) ∧
    s = front ++ after ∧ ∀ x ∈ front, (digitValue? x).isSome = true := by
  let isDigit (x : UInt8) : Bool := (digitValue? x).isSome
  exact ⟨s.takeWhile isDigit, s.dropWhile isDigit, List.span_eq_takeWhile_dropWhile isDigit s,
    List.takeWhile_append_dropWhile.symm, fun x hx => List.mem_takeWhile_imp (p := isDigit) hx⟩

end BootstrapVoucher.Proofs
