import BootstrapVoucher.Digest.Algorithm
import BootstrapVoucher.Modular

/-!
# RSA signatures

The two ways to put a digest into a block of the size of the modulus: behind fixed padding and the
name of the hash, or masked with a salt.
-/

namespace BootstrapVoucher.Rsa

open Digest (Algorithm)

/-- A public key. -/
structure PublicKey where
  modulus : Nat
  exponent : Nat
deriving DecidableEq, Repr

/-- A private key. -/
structure PrivateKey extends PublicKey where
  secret : Nat
deriving DecidableEq, Repr

namespace PublicKey

def bits (key : PublicKey) : Nat := if key.modulus = 0 then 0 else key.modulus.log2 + 1

/-- The number of bytes in the modulus, which is that of a signature. -/
def size (key : PublicKey) : Nat := Bytes.width key.modulus

/-- Whether the sizes of the key are such that signatures are checked with it at all. -/
def isUsable (key : PublicKey) : Bool :=
  key.bits ≤ 16384 && key.exponent < key.modulus && (key.bits ≤ 3072 || key.exponent < 1 <<< 64)

def open? (key : PublicKey) (signature : Bytes) : Option Bytes :=
  let n := Bytes.toNat signature
  if key.isUsable && signature.length == key.size && n < key.modulus then
    some (Bytes.ofNat key.size (Modular.power key.modulus n key.exponent))
  else none

end PublicKey

def hashName : Algorithm → Bytes
  | .md5 => [0x30, 0x20, 0x30, 0x0c, 0x06, 0x08, 0x2a, 0x86, 0x48, 0x86, 0xf7, 0x0d, 0x02, 0x05, 0x05,
      0x00, 0x04, 0x10]
  | .sha1 => [0x30, 0x21, 0x30, 0x09, 0x06, 0x05, 0x2b, 0x0e, 0x03, 0x02, 0x1a, 0x05, 0x00, 0x04, 0x14]
  | .sha224 => nistName 4 28
  | .sha256 => nistName 1 32
  | .sha384 => nistName 2 48
  | .sha512 => nistName 3 64
  | .sha512Short224 => nistName 5 28
  | .sha512Short256 => nistName 6 32
  | .sha3x224 => nistName 7 28
  | .sha3x256 => nistName 8 32
  | .sha3x384 => nistName 9 48
  | .sha3x512 => nistName 10 64
where
  /-- The bytes for a hash that stands under the given number in the common list of hashes. -/
  nistName (number size : Nat) : Bytes :=
    [0x30, UInt8.ofNat (size + 17), 0x30, 0x0d, 0x06, 0x09, 0x60, 0x86, 0x48, 0x01, 0x65, 0x03, 0x04,
      0x02, UInt8.ofNat number, 0x05, 0x00, 0x04, UInt8.ofNat size]

/-- The block of a digest behind fixed padding, which takes eleven bytes at least. -/
def paddedBlock? (size : Nat) (hash : Algorithm) (digest : Bytes) : Option Bytes :=
  let named := hashName hash ++ digest
  if named.length + 11 ≤ size then
    some ([0x00, 0x01] ++ List.replicate (size - named.length - 3) 0xff ++ 0x00 :: named)
  else none

/-- The signature of a digest, unless the modulus is too short for it. -/
def sign? (key : PrivateKey) (hash : Algorithm) (digest : Bytes) : Option Bytes := do
  let block ← paddedBlock? key.size hash digest
  return Bytes.ofNat key.size (Modular.power key.modulus (Bytes.toNat block) key.secret)

/-- Whether a signature of a digest with fixed padding is by the holder of the key. -/
def verify (key : PublicKey) (hash : Algorithm) (digest signature : Bytes) : Bool :=
  match key.open? signature, paddedBlock? key.size hash digest with
  | some block, some expected => block == expected
  | _, _ => false

/-- The first `size` bytes of the mask that a seed gives. -/
def mask (hash : Algorithm) (seed : Bytes) (size : Nat) : Bytes :=
  ((List.range (size / hash.size + 1)).flatMap fun i =>
    hash.digest (seed ++ Bytes.ofNat 4 i)).take size

/-- The conventions of masked blocks: the hash of the message, the hash of the mask, and the number
of bytes of salt, if it is fixed. -/
structure Masking where
  hash : Algorithm
  maskHash : Algorithm
  saltSize : Option Nat
deriving DecidableEq, Repr

/-- Whether a block, whose first byte has `top` bits to spare, holds a digest behind a mask. -/
def unmasks (masking : Masking) (top : Nat) (digest block : Bytes) : Bool :=
  let hash := masking.hash
  let body := if top = 0 then block.drop 1 else block
  let maskedSize := body.length - hash.size - 1
  let check := (body.drop maskedSize).take hash.size
  let data := match Bytes.xor (body.take maskedSize) (mask masking.maskHash check maskedSize) with
    | [] => []
    | first :: rest => (if top = 0 then first else first % UInt8.ofNat (1 <<< top)) :: rest
  match data.dropWhile (· == 0) with
  | mark :: salt =>
    digest.length == hash.size && hash.size + 2 ≤ body.length &&
      (block.headD 0).toNat < 1 <<< top && body.getLast? == some 0xbc && mark == 1 &&
      masking.saltSize.all (salt.length == ·) &&
      hash.digest (List.replicate 8 0 ++ digest ++ salt) == check
  | [] => false

/-- Whether a signature of a digest with masking is by the holder of the key. -/
def verifyMasked (key : PublicKey) (masking : Masking) (digest signature : Bytes) : Bool :=
  match key.open? signature with
  | some block => unmasks masking ((key.bits - 1) % 8) digest block
  | none => false

end BootstrapVoucher.Rsa
