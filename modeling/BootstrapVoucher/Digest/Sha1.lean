import BootstrapVoucher.Digest.BlockHash

/-!
# MD5 and SHA-1

The two older hashes over words of 32 bits. MD5 reads words least significant byte first and has four
registers; SHA-1 reads them most significant byte first and has five.
-/

namespace BootstrapVoucher.Digest

def rotateLeft (x : UInt32) (n : Nat) : UInt32 :=
  (x <<< UInt32.ofNat n) ||| (x >>> UInt32.ofNat (32 - n))

namespace Md5

/-- The state between blocks and rounds. -/
structure Registers where
  (a b c d : UInt32)

/-- The constants of the rounds: the sines of the first whole numbers, without sign. -/
def constants : Array UInt32 := #[
    0xd76aa478, 0xe8c7b756, 0x242070db, 0xc1bdceee, 0xf57c0faf, 0x4787c62a, 0xa8304613, 0xfd469501,
    0x698098d8, 0x8b44f7af, 0xffff5bb1, 0x895cd7be, 0x6b901122, 0xfd987193, 0xa679438e, 0x49b40821,
    0xf61e2562, 0xc040b340, 0x265e5a51, 0xe9b6c7aa, 0xd62f105d, 0x02441453, 0xd8a1e681, 0xe7d3fbc8,
    0x21e1cde6, 0xc33707d6, 0xf4d50d87, 0x455a14ed, 0xa9e3e905, 0xfcefa3f8, 0x676f02d9, 0x8d2a4c8a,
    0xfffa3942, 0x8771f681, 0x6d9d6122, 0xfde5380c, 0xa4beea44, 0x4bdecfa9, 0xf6bb4b60, 0xbebfbc70,
    0x289b7ec6, 0xeaa127fa, 0xd4ef3085, 0x04881d05, 0xd9d4d039, 0xe6db99e5, 0x1fa27cf8, 0xc4ac5665,
    0xf4292244, 0x432aff97, 0xab9423a7, 0xfc93a039, 0x655b59c3, 0x8f0ccc92, 0xffeff47d, 0x85845dd1,
    0x6fa87e4f, 0xfe2ce6e0, 0xa3014314, 0x4e0811a1, 0xf7537e82, 0xbd3af235, 0x2ad7d2bb, 0xeb86d391]

/-- The rotations of four rounds in a row, for each quarter of the rounds. -/
def rotations : Array (Array Nat) :=
  #[#[7, 12, 17, 22], #[5, 9, 14, 20], #[4, 11, 16, 23], #[6, 10, 15, 21]]

def round (words : Array UInt32) (r : Registers) (i : Nat) : Registers :=
  let quarter := i / 16
  let mixed := match quarter with
    | 0 => (r.b &&& r.c) ||| (~~~r.b &&& r.d)
    | 1 => (r.d &&& r.b) ||| (~~~r.d &&& r.c)
    | 2 => r.b ^^^ r.c ^^^ r.d
    | _ => r.c ^^^ (r.b ||| ~~~r.d)
  let word := match quarter with
    | 0 => i
    | 1 => (5 * i + 1) % 16
    | 2 => (3 * i + 5) % 16
    | _ => 7 * i % 16
  let sum := r.a + mixed + constants[i]! + words[word]!
  let places := rotations[quarter]!
  ⟨r.d, r.b + rotateLeft sum places[i % 4]!, r.b, r.c⟩

def absorb (r : Registers) (block : Bytes) : Registers :=
  let words := ((Bytes.pieces 4 block).map fun p => UInt32.ofNat (Bytes.toNatLittle p)).toArray
  let s := (List.range 64).foldl (round words) r
  ⟨r.a + s.a, r.b + s.b, r.c + s.c, r.d + s.d⟩

end Md5

def md5 : Bytes → Bytes :=
  BlockHash.digest
    { blockSize := 64
      lengthSize := 8
      bigEndian := false
      start := (⟨0x67452301, 0xefcdab89, 0x98badcfe, 0x10325476⟩ : Md5.Registers)
      absorb := Md5.absorb
      finish := fun r => [r.a, r.b, r.c, r.d].flatMap fun x => Bytes.ofNatLittle 4 x.toNat }

namespace Sha1

/-- The state between blocks and rounds. -/
structure Registers where
  (a b c d e : UInt32)

/-- The words of a block, continued to one word for each round. -/
def schedule (block : Bytes) : Array UInt32 :=
  let words := ((Bytes.pieces 4 block).map fun p => UInt32.ofNat (Bytes.toNat p)).toArray
  (List.range 64).foldl
    (fun words t => words.push
      (rotateLeft (words[t + 13]! ^^^ words[t + 8]! ^^^ words[t + 2]! ^^^ words[t]!) 1)) words

def round (words : Array UInt32) (r : Registers) (i : Nat) : Registers :=
  let (mixed, constant) : UInt32 × UInt32 := match i / 20 with
    | 0 => ((r.b &&& r.c) ||| (~~~r.b &&& r.d), 0x5a827999)
    | 1 => (r.b ^^^ r.c ^^^ r.d, 0x6ed9eba1)
    | 2 => ((r.b &&& r.c) ||| (r.b &&& r.d) ||| (r.c &&& r.d), 0x8f1bbcdc)
    | _ => (r.b ^^^ r.c ^^^ r.d, 0xca62c1d6)
  ⟨rotateLeft r.a 5 + mixed + r.e + constant + words[i]!, r.a, rotateLeft r.b 30, r.c, r.d⟩

def absorb (r : Registers) (block : Bytes) : Registers :=
  let s := (List.range 80).foldl (round (schedule block)) r
  ⟨r.a + s.a, r.b + s.b, r.c + s.c, r.d + s.d, r.e + s.e⟩

end Sha1

def sha1 : Bytes → Bytes :=
  BlockHash.digest
    { blockSize := 64
      lengthSize := 8
      bigEndian := true
      start := (⟨0x67452301, 0xefcdab89, 0x98badcfe, 0x10325476, 0xc3d2e1f0⟩ : Sha1.Registers)
      absorb := Sha1.absorb
      finish := fun r => [r.a, r.b, r.c, r.d, r.e].flatMap fun x => Bytes.ofNat 4 x.toNat }

end BootstrapVoucher.Digest
