import BootstrapVoucher.Bytes

/-!
# Base64

The standard alphabet with required canonical padding. Encoding takes three bytes at a time; decoding
first looks for a fault in the shape of the text, then takes four symbols at a time.
-/

namespace BootstrapVoucher.Base64

def symbol (v : Nat) : Char :=
  if v < 26 then Char.ofNat (65 + v)
  else if v < 52 then Char.ofNat (71 + v)
  else if v < 62 then Char.ofNat (v - 4)
  else if v = 62 then '+'
  else '/'

def value? (c : Char) : Option Nat :=
  let n := c.toNat
  if 65 ≤ n ∧ n ≤ 90 then some (n - 65)
  else if 97 ≤ n ∧ n ≤ 122 then some (n - 71)
  else if 48 ≤ n ∧ n ≤ 57 then some (n + 4)
  else if c = '+' then some 62
  else if c = '/' then some 63
  else none

/-- The padded base64 text of a byte string. -/
def encode : Bytes → List Char
  | [] => []
  | [a] =>
    let n := a.toNat * 16
    [symbol (n / 64), symbol (n % 64), '=', '=']
  | [a, b] =>
    let n := (a.toNat * 256 + b.toNat) * 4
    [symbol (n / 4096), symbol (n / 64 % 64), symbol (n % 64), '=']
  | a :: b :: c :: rest =>
    let n := (a.toNat * 256 + b.toNat) * 256 + c.toNat
    symbol (n / 262144) :: symbol (n / 4096 % 64) :: symbol (n / 64 % 64) :: symbol (n % 64) ::
      encode rest

/-- Why a text is not canonical padded base64. -/
inductive Fault
  /-- The length leaves a single symbol over. -/
  | length
  | byte (code offset : Nat)
  | padding
  | lastSymbol (code offset : Nat)
deriving DecidableEq, Repr

def Fault.message : Fault → String
  | .length => "Encoded text cannot have a 6-bit remainder."
  | .byte code offset => s!"Invalid byte {code}, offset {offset}."
  | .padding => "Invalid padding"
  | .lastSymbol code offset => s!"Invalid last symbol {code}, offset {offset}."

/-- The bytes of a run of symbols, given by their values. A rest of two or three symbols gives one or
two bytes; the bits left over are ignored. -/
def bytesOf : List Nat → Bytes
  | a :: b :: c :: d :: rest =>
    let n := ((a * 64 + b) * 64 + c) * 64 + d
    UInt8.ofNat (n / 65536) :: UInt8.ofNat (n / 256) :: UInt8.ofNat n :: bytesOf rest
  | [a, b, c] =>
    let n := (a * 64 + b) * 64 + c
    [UInt8.ofNat (n / 1024), UInt8.ofNat (n / 4)]
  | [a, b] => [UInt8.ofNat ((a * 64 + b) / 16)]
  | _ => []

/-- The bits of the last symbol that belong to no byte. -/
def spareBits (count last : Nat) : Nat :=
  if count % 4 = 2 then last % 16 else if count % 4 = 3 then last % 4 else 0

/-- The first fault of a text: a wrong length, then the first character outside the alphabet unless
it starts a padding that ends its group of four, then missing padding, then bits left over in the
last symbol. -/
def fault? (text : List Char) : Option Fault :=
  let symbols := text.takeWhile fun c => (value? c).isSome
  let rest := text.dropWhile fun c => (value? c).isSome
  let count := symbols.length
  if text.length % 4 = 1 then some .length
  else
    match rest with
    | c :: _ =>
      if rest.all (· == '=') && 2 ≤ count % 4 && count % 4 + rest.length ≤ 4 then
        if text.length % 4 ≠ 0 then some .padding
        else
          let last := symbols.getLastD '='
          if spareBits count ((value? last).getD 0) ≠ 0 then
            some (.lastSymbol last.toNat (count - 1))
          else none
      else some (.byte c.toNat count)
    | [] => if text.length % 4 ≠ 0 then some .padding else none

/-- The bytes of a canonical padded base64 text. -/
def decode (text : List Char) : Except Fault Bytes :=
  match fault? text with
  | some fault => .error fault
  | none => .ok (bytesOf (text.filterMap value?))

end BootstrapVoucher.Base64
