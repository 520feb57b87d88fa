import BootstrapVoucher.Asn1.Value

/-!
# Writing ASN.1

The distinguished form of values: every length is as short as possible.
-/

namespace BootstrapVoucher.Asn1.Write

def length (n : Nat) : Bytes :=
  if n < 128 then [UInt8.ofNat n]
  else
    let width := Bytes.width n
    UInt8.ofNat (128 + width) :: Bytes.ofNat width n

def element (first : UInt8) (content : Bytes) : Bytes := first :: length content.length ++ content

def sequence (parts : List Bytes) : Bytes := element 0x30 parts.flatten

/-- A set of elements that are written already, in the order of their bytes. -/
def set (parts : List Bytes) : Bytes := element 0x31 (parts.mergeSort (fun a b => decide (a ≤ b))).flatten

/-- Elements under a tag that depends on where it stands. -/
def wrapped (number : Nat) (parts : List Bytes) : Bytes :=
  element (UInt8.ofNat (0xa0 + number)) parts.flatten

/-- A whole number, in two's complement. -/
def integer (n : Int) : Bytes :=
  let width := (if n < 0 then (-n - 1).toNat else n.toNat).log2 / 8 + 1
  let half : Nat := 1 <<< (8 * width - 1)
  let size := if -(half : Int) ≤ n ∧ n < half then width else width + 1
  element 0x02 (Bytes.ofNat size (n % (1 <<< (8 * size) : Nat)).toNat)

def octets (b : Bytes) : Bytes := element 0x04 b

def bits (s : BitString) : Bytes := element 0x03 (UInt8.ofNat s.unused :: s.bytes)

def null : Bytes := element 0x05 []

def objectId (id : ObjectId) : Bytes := element 0x06 id.toBytes

def utcTime (digits : Bytes) : Bytes := element 0x17 digits
def generalizedTime (digits : Bytes) : Bytes := element 0x18 digits

end BootstrapVoucher.Asn1.Write
