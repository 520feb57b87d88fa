import BootstrapVoucher.Bytes

/-!
# ASN.1 elements

A tagged element is a header and its content; the content of a constructed element holds elements
again. Lengths may be longer than needed, and a constructed element may have no length and end at a
mark instead; such a mark is no element and may stand nowhere else.
-/

namespace BootstrapVoucher.Asn1

/-- The name space of a tag. -/
inductive TagClass
  | universal
  | application
  | context
  | personal
deriving DecidableEq, Repr

/-- What says how the content of an element is to be read. -/
structure Tag where
  tagClass : TagClass
  number : Nat
deriving DecidableEq, Repr

namespace Tag

def universal (number : Nat) : Tag := ⟨.universal, number⟩

/-- A tag whose meaning depends on where it stands. -/
def context (number : Nat) : Tag := ⟨.context, number⟩

def boolean : Tag := universal 1
def integer : Tag := universal 2
def bitString : Tag := universal 3
def octetString : Tag := universal 4
def null : Tag := universal 5
def objectId : Tag := universal 6
def utf8String : Tag := universal 12
def sequence : Tag := universal 16
def set : Tag := universal 17
def utcTime : Tag := universal 23
def generalizedTime : Tag := universal 24

end Tag

/-- What stands before the content of an element. -/
structure Header where
  tag : Tag
  constructed : Bool
  /-- The number of bytes in the content; without it an end mark follows the content. -/
  length : Option Nat
  /-- The number of bytes in the header itself. -/
  size : Nat
deriving DecidableEq, Repr

namespace Header

/-- The class that the two highest bits of a header name. -/
def classOf (first : UInt8) : TagClass :=
  match first.toNat / 64 with
  | 0 => .universal
  | 1 => .application
  | 2 => .context
  | _ => .personal

/-- The number that follows a header of many bytes, and what follows the number. Seven bits of each
byte count, and all bytes but the last have their highest bit set. -/
def longNumber? (number : Nat) : Bytes → Option (Nat × Bytes)
  | [] => none
  | x :: rest =>
    let next := number * 128 + x.toNat % 128
    if x < 128 then some (next, rest)
    else if 1 <<< 24 ≤ next then none
    else longNumber? next rest

/-- The length that the bytes of a header give, and what follows them. -/
def length? : Bytes → Option (Option Nat × Bytes)
  | [] => none
  | x :: rest =>
    if x = 128 then some (none, rest)
    else if x < 128 then some (some x.toNat, rest)
    else
      let count := x.toNat - 128
      let digits := (rest.take count).dropWhile (· == 0)
      let length := Bytes.toNat digits
      if rest.length ≤ count || 8 < digits.length || 1 <<< 63 ≤ length then none
      else some (some length, rest.drop count)

/-- Reads a header whose content fits in front of the end of the bytes. -/
def read? (b : Bytes) : Option Header :=
  match b with
  | [] => none
  | first :: rest => do
    let low := first.toNat % 32
    let (number, rest) ← if low = 31 then longNumber? 0 rest else some (low, rest)
    let (length, rest) ← length? rest
    let constructed := first.toNat / 32 % 2 == 1
    guard (constructed ∨ length.isSome)
    guard (length.getD 0 ≤ rest.length)
    return ⟨⟨classOf first, number⟩, constructed, length, b.length - rest.length⟩

end Header

/-- Whether bytes start with the mark that ends a content without length. -/
def startsWithEndMark (b : Bytes) : Bool := [0, 0].isPrefixOf b

/-- The number of bytes up to the mark that closes the outermost of `depth` contents without length.
Each step takes at least two bytes, so the number of bytes is fuel enough. -/
def contentSize? : (fuel : Nat) → (depth : Nat) → (b : Bytes) → Option Nat
  | 0, _, _ => none
  | fuel + 1, depth, b =>
    if startsWithEndMark b then
      if depth ≤ 1 then some 0 else (contentSize? fuel (depth - 1) (b.drop 2)).map (· + 2)
    else do
      let header ← Header.read? b
      match header.length with
      | some length =>
        let size := header.size + length
        (contentSize? fuel depth (b.drop size)).map (· + size)
      | none => (contentSize? fuel (depth + 1) (b.drop header.size)).map (· + header.size)

/-- A tag with its content. -/
structure Element where
  tag : Tag
  constructed : Bool
  content : Bytes
  /-- All bytes of the element: header, content and end mark. -/
  bytes : Bytes
deriving DecidableEq, Repr

namespace Element

/-- Reads the element with which bytes start; what follows it is given back. -/
def read? (b : Bytes) : Option (Element × Bytes) := do
  guard (!startsWithEndMark b)
  let header ← Header.read? b
  let rest := b.drop header.size
  match header.length with
  | some length =>
    let size := header.size + length
    some (⟨header.tag, header.constructed, rest.take length, b.take size⟩, b.drop size)
  | none =>
    let length ← contentSize? rest.length 1 rest
    let size := header.size + length + 2
    some (⟨header.tag, header.constructed, rest.take length, b.take size⟩, b.drop size)

/-- Reads bytes that consist of elements; each takes two bytes at least. -/
def readAll? : (fuel : Nat) → Bytes → Option (List Element)
  | _, [] => some []
  | 0, _ :: _ => none
  | fuel + 1, b => do
    let (element, rest) ← read? b
    return element :: (← readAll? fuel rest)

def children? (e : Element) : Option (List Element) :=
  if e.constructed then readAll? e.content.length e.content else none

end Element

end BootstrapVoucher.Asn1
