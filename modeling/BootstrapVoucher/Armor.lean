import BootstrapVoucher.Base64
import BootstrapVoucher.Text.Quoted

/-!
# Certificate armour

A voucher carries a certificate as the base64 lines between the header and the footer line of its
PEM text. Removing the frame is strict: the text is header line, body and footer line with single
line feeds between them, at most one line feed follows, and the body consists of non-empty lines
over the base64 characters.
-/

namespace BootstrapVoucher.Armor

def header : String := "-----BEGIN CERTIFICATE-----"

def footer : String := "-----END CERTIFICATE-----"

/-- Why a text is not an armoured certificate, or a body not the body of one. Lines are counted
from 0. -/
inductive Fault
  | noHeader
  | noFooter
  | emptyBody
  | emptyLine (line : Nat)
  | character (c : Char) (line : Nat)
  | encoding (fault : Base64.Fault)
deriving DecidableEq, Repr

def Fault.message : Fault → String
  | .noHeader => s!"expecting \"{header}\" header line"
  | .noFooter => s!"expecting \"{footer}\" footer line"
  | .emptyBody => "empty certificate body"
  | .emptyLine line => s!"empty line {line} in certificate body"
  | .character c line =>
    s!"unexpected character {Text.quotedChar c} at line {line} of certificate body"
  | .encoding fault => fault.message

/-- The lines of a text: the pieces between its line feeds, empty ones included. -/
def lines : List Char → List (List Char)
  | [] => [[]]
  | c :: rest =>
    if c = '\n' then [] :: lines rest
    else
      match lines rest with
      | [] => [[c]]
      | line :: others => (c :: line) :: others

/-- The characters that a line of a body may hold. -/
def isBodyChar (c : Char) : Bool :=
  c.isAlphanum || c == '+' || c == '/' || c == '='

/-- The fault of the line with the given number: that it is empty, or its first character out of
place. -/
def lineFault? (number : Nat) (line : List Char) : Option Fault :=
  if line.isEmpty then some (.emptyLine number)
  else (line.find? fun c => !isBodyChar c).map (Fault.character · number)

/-- The fault of the first faulty line, for lines counted from `number`. -/
def linesFault? (number : Nat) : List (List Char) → Option Fault
  | [] => none
  | line :: rest =>
    match lineFault? number line with
    | some fault => some fault
    | none => linesFault? (number + 1) rest

def bodyFault? (body : List Char) : Option Fault :=
  if body.isEmpty then some .emptyBody else linesFault? 0 (lines body)

/-- What follows `front` in `text`, if `text` starts with it. -/
def dropFront? (front text : List Char) : Option (List Char) :=
  if front.isPrefixOf text then some (text.drop front.length) else none

/-- What precedes `back` in `text`, if `text` ends with it. -/
def dropBack? (back text : List Char) : Option (List Char) :=
  if back.isSuffixOf text then some (text.take (text.length - back.length)) else none

def strip (text : String) : Except Fault String := do
  let some rest := dropFront? (header.toList ++ ['\n']) text.toList | .error .noHeader
  let framed := (dropBack? ['\n'] rest).getD rest
  let some body := dropBack? ('\n' :: footer.toList) framed | .error .noFooter
  match bodyFault? body with
  | some fault => .error fault
  | none => .ok (String.ofList body)

def add (body : String) : String :=
  String.ofList (header.toList ++ '\n' :: body.toList ++ '\n' :: footer.toList ++ ['\n'])

/-- A line without the carriage return that stood before its line feed. -/
def withoutReturn (line : List Char) : List Char :=
  if line.getLast? = some '\r' then line.dropLast else line

/-- The lines that the pieces between line feeds stand for: all but the last piece are ended by a line
feed, and the last one is a line only if there is something in it. -/
def endedLines : List (List Char) → List (List Char)
  | [] => []
  | [last] => if last.isEmpty then [] else [last]
  | line :: rest => withoutReturn line :: endedLines rest

/-- The bytes of a body, its lines put together. -/
def decodeBody (body : String) : Except Fault Bytes :=
  match bodyFault? body.toList with
  | some fault => .error fault
  | none => (Base64.decode (endedLines (lines body.toList)).flatten).mapError .encoding

end BootstrapVoucher.Armor
