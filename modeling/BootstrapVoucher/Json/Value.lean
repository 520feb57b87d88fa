import BootstrapVoucher.Json.Token

/-!
# JSON values

A value is read from its tokens by a machine that keeps the open arrays and objects on a stack; the
machine stops at the first token that does not fit. Members of an object keep their order, and of
several members with one name the last one counts.
-/

namespace BootstrapVoucher.Json

/-- A JSON value. -/
inductive Value
  | null
  | bool (b : Bool)
  | number (n : Number)
  | string (s : String)
  | array (items : List Value)
  | object (members : List (String × Value))

def depthLimit : Nat := 128

/-- An open container: what has been read of it, last part first, and for an object the name whose
value comes next. -/
inductive Frame
  | array (items : List Value)
  | object (members : List (String × Value)) (name : String)

/-- What the machine has read and what it expects. -/
inductive State
  | value (open_ : List Frame)
  | firstItem (open_ : List Frame)
  | nextItem (open_ : List Frame) (items : List Value)
  | afterItem (open_ : List Frame) (items : List Value)
  | firstName (open_ : List Frame)
  | nextName (open_ : List Frame) (members : List (String × Value))
  | afterName (open_ : List Frame) (members : List (String × Value)) (name : String)
  | afterMember (open_ : List Frame) (members : List (String × Value))
  | done (v : Value)

namespace State

/-- Puts a finished value into the innermost open container. -/
def finish (v : Value) : List Frame → State
  | [] => .done v
  | .array items :: frames => .afterItem frames (v :: items)
  | .object members name :: frames => .afterMember frames ((name, v) :: members)

def start (frames : List Frame) : Token → Except Fault State
  | .word .null => .ok (finish .null frames)
  | .word .true => .ok (finish (.bool true) frames)
  | .word .false => .ok (finish (.bool false) frames)
  | .number n => .ok (finish (.number n) frames)
  | .string s => .ok (finish (.string s) frames)
  | .openBracket =>
    if frames.length + 1 < depthLimit then .ok (.firstItem frames) else .error .tooDeep
  | .openBrace =>
    if frames.length + 1 < depthLimit then .ok (.firstName frames) else .error .tooDeep
  | .broken _ fault => .error fault
  | _ => .error .expectedValue

def name (frames : List Frame) (members : List (String × Value)) : Token → Except Fault State
  | .string s => .ok (.afterName frames members s)
  | .broken true fault => .error fault
  | _ => .error .keyNotString

def step : State → Token → Except Fault State
  | .value frames, t => start frames t
  | .firstItem frames, .closeBracket => .ok (finish (.array []) frames)
  | .firstItem frames, t => start (.array [] :: frames) t
  | .nextItem _ _, .closeBracket => .error .trailingComma
  | .nextItem frames items, t => start (.array items :: frames) t
  | .afterItem frames items, .comma => .ok (.nextItem frames items)
  | .afterItem frames items, .closeBracket => .ok (finish (.array items.reverse) frames)
  | .afterItem _ _, _ => .error .expectedCommaOrBracket
  | .firstName frames, .closeBrace => .ok (finish (.object []) frames)
  | .firstName frames, t => name frames [] t
  | .nextName _ _, .closeBrace => .error .trailingComma
  | .nextName frames members, t => name frames members t
  | .afterName frames members s, .colon => .ok (.value (.object members s :: frames))
  | .afterName _ _ _, _ => .error .expectedColon
  | .afterMember frames members, .comma => .ok (.nextName frames members)
  | .afterMember frames members, .closeBrace => .ok (finish (.object members.reverse) frames)
  | .afterMember _ _, _ => .error .expectedCommaOrBrace
  | .done _, _ => .error .trailingText

/-- What a text that ends here denotes. -/
def result : State → Except Fault Value
  | .value _ | .nextItem _ _ | .nextName _ _ => .error .endInValue
  | .firstItem _ | .afterItem _ _ => .error .endInArray
  | .firstName _ | .afterName _ _ _ | .afterMember _ _ => .error .endInObject
  | .done v => .ok v

def run (s : State) (tokens : List Token) : Except Fault Value := do
  (← tokens.foldlM step s).result

end State

namespace Value

def parse (s : Bytes) : Except Fault Value := (State.value []).run (lex s)

/-- The last member of the given name. -/
def member? (name : String) : Value → Option Value
  | .object members => (members.reverse.find? (·.1 == name)).map (·.2)
  | _ => none

def isObject : Value → Bool
  | .object _ => true
  | _ => false

end Value

end BootstrapVoucher.Json
