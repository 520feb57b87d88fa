/-!
# Command-line options

Options and flags are given by a letter after one hyphen or by a name after two. Letters may stand
together, and the value of an option may follow it in the same argument, with or without an equals
sign, or be the next argument. Arguments are read one after the other, and the first fault or request
for help or the version decides.
-/

namespace BootstrapVoucher.Tool

/-- Why the reading of arguments ends early. -/
inductive Stop
  | help
  | version
  /-- The arguments are wrong. -/
  | misused
deriving DecidableEq, Repr

/-- What the presence of an option means. -/
inductive OptionKind
  | flag
  /-- The option has a value, which is one of the accepted texts. -/
  | valued (accepts : String → Bool)
  /-- The option ends the reading. -/
  | stops (stop : Stop)

/-- An option or a flag of a command. -/
structure OptionSpec where
  name : String
  letter : Option Char
  kind : OptionKind
  help : String := ""
  /-- The value that counts if the option is absent. -/
  default : Option String := none
  required : Bool := false

def OptionSpec.hasValue (spec : OptionSpec) : Bool :=
  match spec.kind with
  | .valued _ => true
  | .flag | .stops _ => false

/-- The flags of every command that ask for help or the version. -/
def informing : List OptionSpec := [
  { name := "help", letter := some 'h', kind := .stops .help, help := "Print help" },
  { name := "version", letter := some 'V', kind := .stops .version, help := "Print version" }]

/-- The options that have been given, with their values. A flag has an empty value. -/
abbrev Given := List (String × String)

namespace Given

def value? (given : Given) (name : String) : Option String := given.lookup name

/-- The value of an option, or the one that counts if it is absent. -/
def valueOrDefault? (given : Given) (spec : OptionSpec) : Option String :=
  (given.value? spec.name).or spec.default

def has (given : Given) (name : String) : Bool := (given.lookup name).isSome

/-- Adds an option, which must not be there yet and must accept the value. -/
def add (given : Given) (spec : OptionSpec) (value : String) : Except Stop Given :=
  match spec.kind with
  | .stops stop => .error stop
  | .flag => if given.has spec.name then .error .misused else .ok (given ++ [(spec.name, "")])
  | .valued accepts =>
    if given.has spec.name ∨ !accepts value then .error .misused
    else .ok (given ++ [(spec.name, value)])

end Given

/-- What follows an equals sign at the start of a text. -/
def afterEquals? : List Char → Option (List Char)
  | '=' :: rest => some rest
  | _ => none

/-- What an argument leaves open: nothing, or the value of an option. -/
abbrev Open := Option OptionSpec

def readLetters (specs : List OptionSpec) : Given → List Char → Except Stop (Given × Open)
  | given, [] => .ok (given, none)
  | given, c :: rest =>
    match specs.find? (·.letter == some c) with
    | none => .error .misused
    | some spec =>
      if !spec.hasValue then do
        readLetters specs (← given.add spec "") rest
      else if rest.isEmpty then .ok (given, some spec)
      else do
        return (← given.add spec (String.ofList ((afterEquals? rest).getD rest)), none)

/-- Reads the name after two hyphens. -/
def readName (specs : List OptionSpec) (given : Given) (text : List Char) :
    Except Stop (Given × Open) :=
  let name := text.takeWhile (· != '=')
  let value := afterEquals? (text.drop name.length)
  match specs.find? (·.name == String.ofList name) with
  | none => .error .misused
  | some spec =>
    match value with
    | some value =>
      if !spec.hasValue then .error .misused
      else return (← given.add spec (String.ofList value), none)
    | none =>
      if !spec.hasValue then return (← given.add spec "", none) else .ok (given, some spec)

/-- Reads an argument that starts with a hyphen; there is none if it does not. -/
def readOption? (specs : List OptionSpec) (given : Given) (argument : String) :
    Option (Except Stop (Given × Open)) :=
  match argument.toList with
  | '-' :: '-' :: text => some (readName specs given text)
  | '-' :: c :: rest => some (readLetters specs given (c :: rest))
  | _ => none

/-- Reads the arguments of a command without arguments of other kinds. Two hyphens alone end the
options. -/
def readOptions (specs : List OptionSpec) (given : Given) (pending : Open) :
    List String → Except Stop Given
  | [] => if pending.isSome then .error .misused else .ok given
  | argument :: rest =>
    if argument = "--" then if pending.isSome ∨ !rest.isEmpty then .error .misused else .ok given
    else
      match readOption? specs given argument, pending with
      | some _, some _ => .error .misused
      | some read, none => do
        let (given, pending) ← read
        readOptions specs given pending rest
      | none, some spec => do
        readOptions specs (← given.add spec argument) none rest
      | none, none => .error .misused

end BootstrapVoucher.Tool
