import BootstrapVoucher.Base64
import BootstrapVoucher.Failure

/-!
# PEM texts

A PEM text has blocks of base64 lines between a begin line and an end line with the same label; what
stands outside of blocks does not matter. This reader is lenient where the armour of a voucher is
strict: blanks at the end of a line are ignored, lines may be of any length, and blank space may
stand between base64 symbols. A blank line divides header lines from base64 lines, which then are of
64 characters, the last one excepted.
-/

namespace BootstrapVoucher.Pem

/-- What stands before and after the label of a begin line, and before that of an end line. -/
def beginMark : Bytes := Bytes.ofText "-----BEGIN "
@[inherit_doc beginMark] def endMark : Bytes := Bytes.ofText "-----END "
@[inherit_doc beginMark] def tailMark : Bytes := Bytes.ofText "-----"

/-- A block: its label, its header lines and the bytes that its base64 lines encode. -/
structure Block where
  label : Bytes
  header : Bytes
  data : Bytes
deriving DecidableEq, Repr

/-- The longest piece of a line that is read at a time. -/
def lineLimit : Nat := 254

/-- The first line of a text with its line feed, at most as much as is read at a time; and what
follows it. -/
def cutLine : (room : Nat) → Bytes → Bytes × Bytes
  | 0, b => ([], b)
  | _, [] => ([], [])
  | room + 1, x :: rest =>
    if x = 10 then ([x], rest)
    else
      let (line, rest) := cutLine room rest
      (x :: line, rest)

/-- A line without the bytes at its end that are no visible ASCII characters. -/
def trimmed (line : Bytes) : Bytes :=
  (line.reverse.dropWhile fun x => x ≤ 32 || 128 ≤ x).reverse

/-- A line without the mark that a Unicode text may start with. -/
def withoutMark (line : Bytes) : Bytes :=
  if [0xef, 0xbb, 0xbf].isPrefixOf line && 3 < line.length then line.drop 3 else line

/-- What counts of a line: all of it, or what stands before its first NUL character. -/
def counted (line : Bytes) : Bytes := line.takeWhile (· != 0)

def label? (line : Bytes) : Option Bytes :=
  if beginMark.isPrefixOf line && tailMark.isSuffixOf line then
    some (counted
      ((line.drop beginMark.length).take (line.length - beginMark.length - tailMark.length)))
  else none

/-- Whether a line ends the block with the given label. -/
def isEnd (label line : Bytes) : Bool := line == endMark ++ label ++ tailMark

/-- The label of the first begin line, and the text after that line. Each line is a byte at least. -/
def findBegin (fuel : Nat) (first : Bool) (text : Bytes) : Option (Bytes × Bytes) :=
  match fuel with
  | 0 => none
  | fuel + 1 =>
    if text.isEmpty then none
    else
      let (line, rest) := cutLine lineLimit text
      match label? (trimmed (if first then withoutMark line else line)) with
      | some label => some (label, rest)
      | none => findBegin fuel false rest

/-- What is known while the lines of a block are read: the lines before and after the first blank
line, whether there was a colon before it, and whether a line after it was the last one. -/
structure Lines where
  before : Bytes
  after : Bytes
  colon : Bool
  blank : Bool
  last : Bool
  /-- Whether the line goes on with the next piece. -/
  cut : Bool

/-- A line as it is taken over: with a line feed, unless it is cut short at a NUL character. -/
def taken (line : Bytes) : Bytes := if line.contains 0 then counted line else line ++ [10]

/-- Reads the lines of a block from the text after the begin line. The results are the header and the
base64 text, which are missing if the block is damaged, and the text after the last line read. -/
def readLines (label : Bytes) : (fuel : Nat) → Lines → Bytes → Option (Bytes × Bytes) × Bytes
  | 0, _, text => (none, text)
  | fuel + 1, lines, text =>
    if text.isEmpty then (none, [])
    else
      let (piece, rest) := cutLine lineLimit text
      let cut := piece.length == lineLimit && piece.getLast? != some 10
      let colon := lines.colon || !lines.blank && piece.contains 58
      let line := trimmed piece
      if line.isEmpty then
        if lines.cut then readLines label fuel { lines with cut, colon } rest
        else if lines.blank then (none, rest)
        else readLines label fuel { lines with cut, colon, blank := true } rest
      else if endMark.isPrefixOf line then
        if !isEnd label line then (none, rest)
        else if lines.blank || colon then (some (lines.before, lines.after), rest)
        else (some ([], lines.before), rest)
      else if lines.last then (none, rest)
      else if lines.blank then
        if 64 < line.length then (none, rest)
        else
          readLines label fuel
            { lines with cut, after := lines.after ++ taken line, last := line.length < 64 } rest
      else readLines label fuel { lines with cut, colon, before := lines.before ++ taken line } rest

/-- The symbols of base64 text up to a hyphen, blank space left out; there are none if anything else
stands there. -/
def symbols? : Bytes → Option (List Char)
  | [] => some []
  | x :: rest =>
    let c := Char.ofNat x.toNat
    if x = 45 then some []
    else if x = 32 || x = 9 || x = 10 || x = 13 then symbols? rest
    else if (Base64.value? c).isSome || c == '=' then (c :: ·) <$> symbols? rest
    else none

/-- The bytes that base64 text encodes. Bits left over in the last symbol do not matter. -/
def decode? (text : Bytes) : Option Bytes := do
  let symbols ← symbols? text
  let values := symbols.takeWhile (· != '=')
  let padding := symbols.dropWhile (· != '=')
  guard (symbols.length % 4 = 0 ∧ padding.all (· == '=') ∧ padding.length ≤ 2)
  return Base64.bytesOf (values.filterMap Base64.value?)

/-- The first block of a text, which may be damaged, and what follows it. An empty block counts as
damaged. -/
def next? (text : Bytes) : Option (Except Failure Block × Bytes) := do
  let (label, rest) ← findBegin text.length true text
  let (lines, rest) := readLines label rest.length ⟨[], [], false, false, false, false⟩ rest
  let block : Except Failure Block :=
    match lines.bind fun (header, body) => (decode? body).map fun data => (header, data) with
    | none | some (_, []) => .error .damagedBlock
    | some (header, data) => .ok ⟨label, header, data⟩
  return (block, rest)

/-- The first block with one of the given labels, and what follows it. Neither this block nor one
before it may be damaged, and it may not have a header. -/
def find (labels : List String) : (fuel : Nat) → Bytes → Except Failure (Block × Bytes)
  | 0, _ => .error .noStartLine
  | fuel + 1, text =>
    match next? text with
    | none => .error .noStartLine
    | some (.error failure, _) => .error failure
    | some (.ok block, rest) =>
      if labels.any fun label => Bytes.ofText label == block.label then
        if block.header.isEmpty then .ok (block, rest) else .error .damagedBlock
      else find labels fuel rest

def first (labels : List String) (text : Bytes) : Except Failure Block :=
  (find labels (text.length + 1) text).map (·.1)

/-- All blocks with the given labels, each read by `read`. -/
def readAll {α : Type} (labels : List String) (read : Block → Except Failure α) :
    (fuel : Nat) → Bytes → Except Failure (List α)
  | 0, _ => .ok []
  | fuel + 1, text =>
    match find labels (text.length + 1) text with
    | .error .noStartLine => .ok []
    | .error failure => .error failure
    | .ok (block, rest) => do
      let value ← read block
      return value :: (← readAll labels read fuel rest)

def headerLimit : Nat := 10

/-- What `read` makes of the first block with one of the given labels that it can read. Blocks that
are damaged or cannot be read are passed over, but not those with a header. -/
def search {α : Type} (labels : List String) (read : Block → Option α) :
    (fuel : Nat) → Bytes → Except Failure α
  | 0, _ => .error .noStartLine
  | fuel + 1, text =>
    match next? text with
    | none => .error .noStartLine
    | some (.error _, rest) => search labels read fuel rest
    | some (.ok block, rest) =>
      if labels.any fun label => Bytes.ofText label == block.label then
        if headerLimit < block.header.length then .error .damagedBlock
        else
          match read block with
          | some value => .ok value
          | none => search labels read fuel rest
      else search labels read fuel rest

/-- The text of a block with lines of 64 symbols. -/
def write (label : String) (data : Bytes) : String :=
  let symbols := (Base64.encode data).map fun c => UInt8.ofNat c.toNat
  let lines := (Bytes.pieces 64 symbols).map fun line =>
    String.ofList (line.map fun x => Char.ofNat x.toNat) ++ "\n"
  "-----BEGIN " ++ label ++ "-----\n" ++ String.join lines ++ "-----END " ++ label ++ "-----\n"

end BootstrapVoucher.Pem
