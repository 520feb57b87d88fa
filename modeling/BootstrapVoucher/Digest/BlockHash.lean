import BootstrapVoucher.Bytes

/-!
# Block hashes

Many hashes take a message in blocks of one size into a running state. The message is first padded
with a one bit, zeros and its length in bits, so that it fills whole blocks and no two messages are
padded alike.
-/

namespace BootstrapVoucher.Digest

/-- A hash that takes blocks into a state. -/
structure BlockHash (State : Type) where
  /-- The number of bytes in a block. -/
  blockSize : Nat
  /-- The number of bytes that hold the length of the message. -/
  lengthSize : Nat
  /-- Whether the most significant byte of the length comes first. -/
  bigEndian : Bool
  start : State
  absorb : State → Bytes → State
  finish : State → Bytes

namespace BlockHash

variable {State : Type}

/-- What is added to a message of `size` bytes. -/
def padding (hash : BlockHash State) (size : Nat) : Bytes :=
  let zeros := (hash.blockSize - (size + 1 + hash.lengthSize) % hash.blockSize) % hash.blockSize
  let length := if hash.bigEndian then Bytes.ofNat hash.lengthSize (8 * size)
    else Bytes.ofNatLittle hash.lengthSize (8 * size)
  0x80 :: List.replicate zeros 0 ++ length

def digest (hash : BlockHash State) (message : Bytes) : Bytes :=
  hash.finish <|
    (Bytes.pieces hash.blockSize (message ++ hash.padding message.length)).foldl hash.absorb hash.start

end BlockHash

end BootstrapVoucher.Digest
