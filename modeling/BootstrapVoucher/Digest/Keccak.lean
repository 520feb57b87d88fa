import BootstrapVoucher.Bytes

/-!
# SHA-3 and SHAKE

A sponge over 25 lanes of 64 bits: blocks of the padded message are mixed into the first lanes, with
a permutation after each block, and the output is read from the same lanes.
-/

namespace BootstrapVoucher.Digest.Keccak

/-- The lanes of the state, row by row. -/
abbrev Lanes := Array UInt64

def constants : List UInt64 := [
    0x0000000000000001, 0x0000000000008082, 0x800000000000808a, 0x8000000080008000,
    0x000000000000808b, 0x0000000080000001, 0x8000000080008081, 0x8000000000008009,
    0x000000000000008a, 0x0000000000000088, 0x0000000080008009, 0x000000008000000a,
    0x000000008000808b, 0x800000000000008b, 0x8000000000008089, 0x8000000000008003,
    0x8000000000008002, 0x8000000000000080, 0x000000000000800a, 0x800000008000000a,
    0x8000000080008081, 0x8000000000008080, 0x0000000080000001, 0x8000000080008008]

def rotations : Array Nat := #[
    0, 1, 62, 28, 27, 36, 44, 6, 55, 20, 3, 10, 43, 25, 39, 41, 45, 15, 21, 8, 18, 2, 61, 56, 14]

def rotate (x : UInt64) (n : Nat) : UInt64 :=
  if n = 0 then x else (x <<< UInt64.ofNat n) ||| (x >>> UInt64.ofNat (64 - n))

def round (s : Lanes) (constant : UInt64) : Lanes :=
  let column := Array.ofFn fun x : Fin 5 =>
    s[x.val]! ^^^ s[x.val + 5]! ^^^ s[x.val + 10]! ^^^ s[x.val + 15]! ^^^ s[x.val + 20]!
  let mixed := Array.ofFn fun i : Fin 25 =>
    s[i.val]! ^^^ column[(i.val + 4) % 5]! ^^^ rotate column[(i.val + 1) % 5]! 1
  let moved := Array.ofFn fun i : Fin 25 =>
    let x := i.val % 5
    let y := i.val / 5
    let source := (x + 3 * y) % 5 + 5 * x
    rotate mixed[source]! rotations[source]!
  let crossed := Array.ofFn fun i : Fin 25 =>
    let row := i.val / 5 * 5
    moved[i.val]! ^^^ (~~~moved[(i.val + 1) % 5 + row]! &&& moved[(i.val + 2) % 5 + row]!)
  crossed.set! 0 (crossed[0]! ^^^ constant)

def permute (s : Lanes) : Lanes := constants.foldl round s

/-- The state after a block of whole lanes. -/
def absorb (s : Lanes) (block : Bytes) : Lanes :=
  let words := ((Bytes.pieces 8 block).map fun p => UInt64.ofNat (Bytes.toNatLittle p)).toArray
  permute (s.mapIdx fun i lane => lane ^^^ words.getD i 0)

/-- The first `rate` bytes of the state and of the next `count - 1` states. -/
def squeeze (rate : Nat) : (count : Nat) → Lanes → Bytes
  | 0, _ => []
  | count + 1, s =>
    (s.toList.flatMap fun lane => Bytes.ofNatLittle 8 lane.toNat).take rate ++
      squeeze rate count (permute s)

/-- The message filled up to whole blocks; `mark` tells the functions apart. -/
def pad (rate : Nat) (mark : UInt8) (message : Bytes) : Bytes :=
  let free := rate - message.length % rate
  if free = 1 then message ++ [mark ||| 0x80]
  else message ++ mark :: List.replicate (free - 2) 0 ++ [0x80]

/-- The first `size` bytes of the output of the sponge. -/
def sponge (rate : Nat) (mark : UInt8) (size : Nat) (message : Bytes) : Bytes :=
  let s := (Bytes.pieces rate (pad rate mark message)).foldl absorb (Array.replicate 25 0)
  (squeeze rate (size / rate + 1) s).take size

def sha3 (size : Nat) (message : Bytes) : Bytes := sponge (200 - 2 * size) 0x06 size message

/-- The first `size` bytes of the SHAKE256 output. -/
def shake256 (size : Nat) (message : Bytes) : Bytes := sponge 136 0x1f size message

end BootstrapVoucher.Digest.Keccak
