import BootstrapVoucher.Digest.Keccak
import BootstrapVoucher.Digest.Sha1
import BootstrapVoucher.Digest.Sha2

/-!
# Hash algorithms

The hashes that signatures may use, by name, and the keyed hash built from any of them.
-/

namespace BootstrapVoucher.Digest

/-- A hash. -/
inductive Algorithm
  | md5
  | sha1
  | sha224
  | sha256
  | sha384
  | sha512
  | sha512Short224
  | sha512Short256
  | sha3x224
  | sha3x256
  | sha3x384
  | sha3x512
deriving DecidableEq, Repr

namespace Algorithm

def digest : Algorithm → Bytes → Bytes
  | md5 => Digest.md5
  | sha1 => Digest.sha1
  | sha224 => Sha2.sha224
  | sha256 => Sha2.sha256
  | sha384 => Sha2.sha384
  | sha512 => Sha2.sha512
  | sha512Short224 => Sha2.sha512Short224
  | sha512Short256 => Sha2.sha512Short256
  | sha3x224 => Keccak.sha3 28
  | sha3x256 => Keccak.sha3 32
  | sha3x384 => Keccak.sha3 48
  | sha3x512 => Keccak.sha3 64

def size : Algorithm → Nat
  | md5 => 16
  | sha1 => 20
  | sha224 | sha512Short224 | sha3x224 => 28
  | sha256 | sha512Short256 | sha3x256 => 32
  | sha384 | sha3x384 => 48
  | sha512 | sha3x512 => 64

def blockSize : Algorithm → Nat
  | md5 | sha1 | sha224 | sha256 => 64
  | sha384 | sha512 | sha512Short224 | sha512Short256 => 128
  | sha3x224 => 144
  | sha3x256 => 136
  | sha3x384 => 104
  | sha3x512 => 72

/-- The bits of security against collisions that a policy counts for the hash. -/
def strength : Algorithm → Nat
  | md5 => 39
  | sha1 => 63
  | algorithm => 4 * algorithm.size

def hmac (algorithm : Algorithm) (key message : Bytes) : Bytes :=
  let short := if key.length ≤ algorithm.blockSize then key else algorithm.digest key
  let key := short ++ List.replicate (algorithm.blockSize - short.length) 0
  algorithm.digest (key.map (· ^^^ 0x5c) ++ algorithm.digest (key.map (· ^^^ 0x36) ++ message))

end Algorithm

end BootstrapVoucher.Digest
