import BootstrapVoucher.Json.Value

/-!
# JSON text

Values are written compactly, or over several lines with two blanks of indentation for each open
container. In a string only quotation marks, backslashes and controls are escaped.
-/

namespace BootstrapVoucher.Json

def escapeByte (x : UInt8) : Bytes :=
  if x = 34 then [92, 34]
  else if x = 92 then [92, 92]
  else if x = 8 then [92, 98]
  else if x = 9 then [92, 116]
  else if x = 10 then [92, 110]
  else if x = 12 then [92, 102]
  else if x = 13 then [92, 114]
  else if x < 32 then [92, 117, 48, 48, if x < 16 then 48 else 49,
    if x % 16 < 10 then 48 + x % 16 else 87 + x % 16]
  else [x]

def stringText (s : String) : Bytes :=
  34 :: (Bytes.ofText s).flatMap escapeByte ++ [34]

namespace Value

/-- A line feed and the blanks of a nesting depth, or nothing where the text is compact. -/
def lineBreak : Option Nat → Bytes
  | none => []
  | some depth => 10 :: List.replicate (2 * depth) 32

mutual

/-- The text of a value; with an indentation depth it is written over several lines. -/
def write (depth : Option Nat) : Value → Bytes
  | .null => Word.null.spelling
  | .bool true => Word.true.spelling
  | .bool false => Word.false.spelling
  | .number n => Bytes.ofText (String.ofList n.text)
  | .string s => stringText s
  | .array [] => [91, 93]
  | .array (item :: items) =>
    91 :: lineBreak (depth.map (· + 1)) ++ write (depth.map (· + 1)) item ++
      writeItems (depth.map (· + 1)) items ++ lineBreak depth ++ [93]
  | .object [] => [123, 125]
  | .object ((name, v) :: members) =>
    123 :: lineBreak (depth.map (· + 1)) ++ stringText name ++ 58 ::
      (if depth.isSome then [32] else []) ++ write (depth.map (· + 1)) v ++
      writeMembers (depth.map (· + 1)) members ++ lineBreak depth ++ [125]

def writeItems (depth : Option Nat) : List Value → Bytes
  | [] => []
  | item :: items => 44 :: lineBreak depth ++ write depth item ++ writeItems depth items

def writeMembers (depth : Option Nat) : List (String × Value) → Bytes
  | [] => []
  | (name, v) :: members =>
    44 :: lineBreak depth ++ stringText name ++ 58 :: (if depth.isSome then [32] else []) ++
      write depth v ++ writeMembers depth members

end

def compact (v : Value) : Bytes := v.write none

def pretty (v : Value) : Bytes := v.write (some 0)

end Value

end BootstrapVoucher.Json
