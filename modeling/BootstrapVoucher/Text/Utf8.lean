import BootstrapVoucher.Bytes

/-!
# What is no UTF-8 text

A byte string that is no text is blamed where its first wrong sequence starts. The sequence is wrong by
its first byte alone, or by the bytes up to the one that cannot follow, or because the bytes end in it.
-/

namespace BootstrapVoucher.Text.Utf8

/-- Where a byte string stops being text, and how many bytes are wrong there; there is no such number if
more bytes were needed. -/
structure Fault where
  start : Nat
  wrong : Option Nat
deriving DecidableEq, Repr

def Fault.message : Fault → String
  | ⟨start, some wrong⟩ => s!"invalid utf-8 sequence of {wrong} bytes from index {start}"
  | ⟨start, none⟩ => s!"incomplete utf-8 byte sequence from index {start}"

/-- The bounds of the bytes that must follow a first byte, one pair for each; `none` if the byte starts
nothing. -/
def followers? (x : UInt8) : Option (List (UInt8 × UInt8)) :=
  if x < 0x80 then some []
  else if x < 0xC2 then none
  else if x < 0xE0 then some [(0x80, 0xBF)]
  else if x = 0xE0 then some [(0xA0, 0xBF), (0x80, 0xBF)]
  else if x = 0xED then some [(0x80, 0x9F), (0x80, 0xBF)]
  else if x < 0xF0 then some [(0x80, 0xBF), (0x80, 0xBF)]
  else if x = 0xF0 then some [(0x90, 0xBF), (0x80, 0xBF), (0x80, 0xBF)]
  else if x < 0xF4 then some [(0x80, 0xBF), (0x80, 0xBF), (0x80, 0xBF)]
  else if x = 0xF4 then some [(0x80, 0x8F), (0x80, 0xBF), (0x80, 0xBF)]
  else none

/-- Goes on behind the bytes that must follow. The fault counts the bytes of the sequence that were
read, of which there are `read` so far. -/
def follow (read : Nat) : List (UInt8 × UInt8) → Bytes → Except (Option Nat) Bytes
  | [], s => .ok s
  | _ :: _, [] => .error none
  | (low, high) :: more, x :: s =>
    if low ≤ x ∧ x ≤ high then follow (read + 1) more s else .error (some read)

theorem length_follow {read : Nat} {bounds : List (UInt8 × UInt8)} {s rest : Bytes}
    (h : follow read bounds s = .ok rest) : rest.length ≤ s.length := by
  fun_induction follow read bounds s with
  | case1 => cases h; exact Nat.le_refl _
  | case2 => cases h
  | case3 read low high more x s _ ih => exact Nat.le_succ_of_le (ih h)
  | case4 => cases h

/-- The first fault of bytes of which the first one has the number `start`. -/
def fault? (start : Nat) : Bytes → Option Fault
  | [] => none
  | x :: s =>
    match followers? x with
    | none => some ⟨start, some 1⟩
    | some bounds =>
      match h : follow 1 bounds s with
      | .error wrong => some ⟨start, wrong⟩
      | .ok rest => fault? (start + 1 + bounds.length) rest
termination_by s => s.length
decreasing_by
  have := length_follow h
  simp only [List.length_cons]; omega

end BootstrapVoucher.Text.Utf8
