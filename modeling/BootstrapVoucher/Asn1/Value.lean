import BootstrapVoucher.Asn1.Element

/-!
# ASN.1 values

Reading the values of elements: numbers, object identifiers, strings, and sequences with their
fields in order. A string may come in pieces. What an element is not allowed to hold makes reading
fail.
-/

namespace BootstrapVoucher.Asn1

/-- An object identifier: the numbers on the way to it from the root of the registry. -/
abbrev ObjectId := List Nat

namespace ObjectId

/-- The subidentifiers that bytes write with seven bits each; none starts with a zero digit. -/
def subidentifiers? (started : Option Nat) : Bytes → Option (List Nat)
  | [] => if started.isNone then some [] else none
  | x :: rest =>
    if started.isNone && x == 128 then none
    else
      let number := started.getD 0 * 128 + x.toNat % 128
      if x < 128 then (number :: ·) <$> subidentifiers? none rest
      else subidentifiers? (some number) rest

/-- The object identifier that bytes write; the first subidentifier holds two numbers. -/
def ofBytes? (b : Bytes) : Option ObjectId :=
  match subidentifiers? none b with
  | some (first :: rest) =>
    let top := min (first / 40) 2
    some (top :: (first - 40 * top) :: rest)
  | _ => none

/-- A subidentifier in base 128, with the highest bit set in `mark` for all digits but the last. -/
def digits (number : Nat) (last : Bool) : Bytes :=
  let digit := UInt8.ofNat (number % 128 + if last then 0 else 128)
  if number < 128 then [digit] else digits (number / 128) false ++ [digit]
termination_by number

def toBytes : ObjectId → Bytes
  | top :: second :: rest => ((40 * top + second) :: rest).flatMap (digits · true)
  | _ => []

end ObjectId

/-- A string of bits: its bytes, and the number of bits at the end that do not count. -/
structure BitString where
  unused : Nat
  bytes : Bytes
deriving DecidableEq, Repr

namespace BitString

/-- The string of bits that bytes hold, with the bits that do not count cleared. -/
def ofBytes (unused : Nat) (bytes : Bytes) : BitString :=
  match bytes.getLast? with
  | some last => ⟨unused, bytes.dropLast ++ [UInt8.ofNat (last.toNat >>> unused <<< unused)]⟩
  | none => ⟨unused, []⟩

/-- Whether the bit with the given number is there and set. -/
def bit (s : BitString) (number : Nat) : Bool :=
  match s.bytes[number / 8]? with
  | some byte => byte.toNat.testBit (7 - number % 8)
  | none => false

end BitString

/-- A value that is kept as it is: an element whose content fits its tag. -/
abbrev AnyValue := Element

/-- The number of levels to which the pieces of a string may be nested. -/
def pieceDepth : Nat := 6

namespace Element

/-- The bytes of a string that may come in pieces, as deep as `depth`. -/
def gather? : (depth : Nat) → Element → Option Bytes
  | 0, _ => none
  | depth + 1, e =>
    if e.constructed then do
      let pieces ← e.children?
      let parts ← pieces.mapM fun piece =>
        if piece.constructed then gather? depth piece else some piece.content
      return parts.flatten
    else some e.content

/-- The content of a value that may come in pieces. -/
def text? (e : Element) : Option Bytes := e.gather? pieceDepth

/-- The content of a value that may not come in pieces. -/
def primitive? (e : Element) : Option Bytes := if e.constructed then none else some e.content

/-- The number that bytes write in two's complement, as short as possible. -/
def integerOf? (b : Bytes) : Option Int :=
  match b with
  | [] => none
  | [x] => some (Int.bmod x.toNat 256)
  | x :: y :: _ =>
    if (x == 0 && y < 128) || (x == 255 && 128 ≤ y) then none
    else some (Int.bmod (Bytes.toNat b) (1 <<< (8 * b.length)))

def integer? (e : Element) : Option Int := e.primitive?.bind integerOf?

/-- A whole number that is used without its sign. -/
def natural? (e : Element) : Option Nat := e.integer?.map Int.natAbs

/-- A large number that bytes write without a sign, however many zeros they start with. -/
def magnitude? (e : Element) : Option Nat := e.primitive?.map Bytes.toNat

/-- A whole number of 32 bits; no bytes stand for zero. -/
def small? (e : Element) : Option Int :=
  match e.primitive? with
  | some [] => some 0
  | some b => (integerOf? b).filter fun n => -0x80000000 ≤ n ∧ n < 0x80000000
  | none => none

/-- A truth value: false is a single byte of zeros. -/
def boolean? (e : Element) : Option Bool :=
  match e.primitive? with
  | some [x] => some (x != 0)
  | _ => none

def objectId? (e : Element) : Option ObjectId := e.primitive?.bind ObjectId.ofBytes?

def bitString? (e : Element) : Option BitString :=
  match e.text? with
  | some (unused :: bytes) => if unused < 8 then some (.ofBytes unused.toNat bytes) else none
  | _ => none

/-- Whether bytes can be the content of a value with the given tag of the standard. -/
def fits (number : Nat) (b : Bytes) : Bool :=
  match number with
  | 1 => b.length == 1
  | 2 | 10 => (integerOf? b).isSome
  | 3 => match b with
    | unused :: _ => unused < 8
    | [] => false
  | 5 => b.isEmpty
  | 6 => (ObjectId.ofBytes? b).isSome
  | 23 => 13 ≤ b.length
  | 24 => 15 ≤ b.length
  | 28 => b.length % 4 == 0
  | 30 => b.length % 2 == 0
  | _ => true

/-- The content of a value with a tag of the standard, put together from its pieces if there are
any. Sequences and sets are not looked into. -/
def value? (e : Element) : Option Bytes := do
  let number := e.tag.number
  if e.tag.tagClass ≠ .universal then return e.content
  else if number = 16 ∨ number = 17 then
    guard e.constructed
    return e.content
  else
    let b ← if [1, 2, 5, 6, 10].contains number then e.primitive? else e.text?
    guard (fits number b)
    return b

def any? (e : Element) : Option AnyValue := e.value?.map fun _ => e

/-- A point of time, of which only the form is looked at. -/
def time? (e : Element) : Option Unit := do
  guard (e.tag = .utcTime ∨ e.tag = .generalizedTime)
  let _ ← e.value?
  return ()

/-- The elements of a list that all have the same form. A list need not be marked as constructed. -/
def members? {α : Type} (read : Element → Option α) (e : Element) : Option (List α) := do
  (← readAll? e.content.length e.content).mapM read

def listOf? {α : Type} (tag : Tag) (read : Element → Option α) (e : Element) : Option (List α) := do
  guard (e.tag = tag)
  e.members? read

/-- The only element inside an element that is there for its tag. -/
def wrapped? {α : Type} (read : Element → Option α) (e : Element) : Option α :=
  match e.children? with
  | some [inner] => read inner
  | _ => none

end Element

/-- Reading fields in order: what is left of the elements is the state. -/
abbrev Fields := StateT (List Element) Option

namespace Fields

variable {α : Type}

/-- The next element, if it has one of the given tags. -/
def optional (tags : List Tag) (read : Element → Option α) : Fields (Option α) := fun elements =>
  match elements with
  | e :: rest =>
    if e.tag ∈ tags then (read e).map fun value => (some value, rest) else some (none, elements)
  | [] => some (none, [])

/-- The next element, which must have the given tag. -/
def field (tag : Tag) (read : Element → Option α) : Fields α := fun elements =>
  match elements with
  | e :: rest => if e.tag = tag then (read e).map fun value => (value, rest) else none
  | [] => none

/-- The next element, whatever its tag. -/
def next (read : Element → Option α) : Fields α := fun elements =>
  match elements with
  | e :: rest => (read e).map fun value => (value, rest)
  | [] => none

/-- The next element of any tag, if there is one. -/
def rest? (read : Element → Option α) : Fields (Option α) := fun elements =>
  match elements with
  | e :: rest => (read e).map fun value => (some value, rest)
  | [] => some (none, [])

/-- A whole number, a string of bytes, an object identifier. -/
def integer : Fields Int := field .integer Element.integer?
@[inherit_doc integer] def natural : Fields Nat := field .integer Element.natural?
@[inherit_doc integer] def magnitude : Fields Nat := field .integer Element.magnitude?
@[inherit_doc integer] def small : Fields Int := field .integer Element.small?
@[inherit_doc integer] def octets : Fields Bytes := field .octetString Element.text?
@[inherit_doc integer] def objectId : Fields ObjectId := field .objectId Element.objectId?

/-- The fields of an element whose content holds exactly them. -/
def all? (fields : Fields α) (e : Element) : Option α := do
  let (value, rest) ← fields.run (← e.children?)
  guard rest.isEmpty
  return value

def sequence? (fields : Fields α) (e : Element) : Option α := do
  guard (e.tag = .sequence)
  fields.all? e

end Fields

/-- Reads the element with which bytes start; what follows it does not matter. -/
def readWith? {α : Type} (read : Element → Option α) (b : Bytes) : Option α := do
  let (e, _) ← Element.read? b
  read e

def readExactly? {α : Type} (read : Element → Option α) (b : Bytes) : Option α := do
  let (e, rest) ← Element.read? b
  guard rest.isEmpty
  read e

end BootstrapVoucher.Asn1
