import BootstrapVoucher.Claims.Basic
import BootstrapVoucher.Tool.Help

/-!
# The commands of the tool

The tool signs a voucher, verifies one, or checks a folder of artifacts. The flag for debug messages
may stand in front of a command or among its options. Help can be asked for by a flag of any command,
or like a command.
-/

namespace BootstrapVoucher.Tool

/-- What to sign, with which key pair, and where to write it. -/
structure SignCommand where
  serial : String
  pdc : String
  certificate : String
  key : String
  assertion : Option Assertion
  revocationChecks : Bool
  validityDays : Int
  out : Option String
deriving DecidableEq, Repr

/-- Which voucher to verify, with which anchors. -/
structure VerifyCommand where
  voucher : String
  trust : String
  /-- Whether the voucher must be within its window. -/
  checkExpiry : Bool
deriving DecidableEq, Repr

/-- Which folder to check. -/
structure CheckCommand where
  artifacts : String
deriving DecidableEq, Repr

/-- A command. -/
inductive Command
  | sign (command : SignCommand)
  | verify (command : VerifyCommand)
  | check (command : CheckCommand)
deriving DecidableEq, Repr

/-- A command and whether debug messages are wanted. -/
structure Invocation where
  verbose : Bool
  command : Command
deriving DecidableEq, Repr

/-- The number that a text writes in decimal, if it fits into 64 bits. -/
def readDays? (text : String) : Option Int :=
  let digitsOf (cs : List Char) : Option Nat :=
    if cs.isEmpty ∨ !cs.all Char.isDigit then none
    else some (cs.foldl (fun n c => 10 * n + (c.toNat - 48)) 0)
  let number : Option Int :=
    match text.toList with
    | '-' :: cs => (digitsOf cs).map fun n => -(n : Int)
    | '+' :: cs => (digitsOf cs).map fun n => (n : Int)
    | cs => (digitsOf cs).map fun n => (n : Int)
  number.filter fun n => -(1 <<< 63 : Nat) ≤ n ∧ n < (1 <<< 63 : Nat)

def readAssertion? (text : String) : Option Assertion := (Assertion.ofText text).toOption

def anyText : OptionKind := .valued fun _ => true

def verboseFlag : OptionSpec :=
  { name := "verbose", letter := some 'v', kind := .flag, help := "Enable debug logging" }

def serialOption : OptionSpec :=
  { name := "serial", letter := some 's', kind := anyText, required := true }

def pdcOption : OptionSpec :=
  { name := "pdc", letter := some 'p', kind := anyText, help := "Pinned domain certificate (PEM)",
    default := some "pdc_pub.pem" }

def certOption : OptionSpec :=
  { name := "cert", letter := some 'c', kind := anyText, help := "Vendor CA certificate (PEM)",
    default := some "vendorca_pub.pem" }

def keyOption : OptionSpec :=
  { name := "key", letter := some 'k', kind := anyText, help := "Vendor CA private key (PEM)",
    default := some "vendorca_priv.pem" }

def assertionOption : OptionSpec :=
  { name := "assertion", letter := some 'a',
    kind := .valued fun text => (readAssertion? text).isSome }

def revocationFlag : OptionSpec :=
  { name := "revocation-checks", letter := some 'r', kind := .flag }

/-- The option for the number of days that the voucher is valid. -/
def validityOption : OptionSpec :=
  { name := "validity-days", letter := none,
    kind := .valued fun text => (readDays? text).isSome, default := some "365" }

def outOption : OptionSpec :=
  { name := "out", letter := some 'o', kind := anyText, help := "Defaults to ov_<serial>.der" }

def voucherOption : OptionSpec :=
  { name := "voucher", letter := some 'i', kind := anyText, required := true }

def trustOption : OptionSpec :=
  { name := "trust", letter := some 't', kind := anyText,
    help := "Trusted certificates (PEM bundle)", default := some "vendorca_pub.pem" }

def expiryFlag : OptionSpec :=
  { name := "check-expiry", letter := some 'c', kind := .flag,
    help := "Also reject vouchers outside their validity window" }

def artifactsOption : OptionSpec :=
  { name := "artifacts", letter := some 'a', kind := anyText, default := some "testdata" }

/-- The command that signs; a serial number is needed. -/
def SignCommand.ofGiven? (given : Given) : Option Command := do
  return .sign {
    serial := ← given.value? serialOption.name
    pdc := ← given.valueOrDefault? pdcOption
    certificate := ← given.valueOrDefault? certOption
    key := ← given.valueOrDefault? keyOption
    assertion := (given.value? assertionOption.name).bind readAssertion?
    revocationChecks := given.has revocationFlag.name
    validityDays := ← (given.valueOrDefault? validityOption).bind readDays?
    out := given.value? outOption.name }

/-- The command that verifies; a voucher is needed. -/
def VerifyCommand.ofGiven? (given : Given) : Option Command := do
  return .verify {
    voucher := ← given.value? voucherOption.name
    trust := ← given.valueOrDefault? trustOption
    checkExpiry := given.has expiryFlag.name }

def CheckCommand.ofGiven? (given : Given) : Option Command := do
  return .check { artifacts := ← given.valueOrDefault? artifactsOption }

/-- A kind of command: its name, what it is about, its options, and the command that given options
make up. -/
structure CommandSpec where
  name : String
  about : String
  options : List OptionSpec
  make? : Given → Option Command

def commands : List CommandSpec := [
  { name := "sign"
    about := "Sign an ownership voucher for the given serial number using the vendor CA key pair"
    options := [serialOption, verboseFlag, pdcOption, certOption, keyOption, assertionOption,
      revocationFlag, validityOption, outOption] ++ informing
    make? := SignCommand.ofGiven? },
  { name := "verify"
    about := "Verify the supplied ownership voucher against the trusted certificates and print its content"
    options := [voucherOption, verboseFlag, trustOption, expiryFlag] ++ informing
    make? := VerifyCommand.ofGiven? },
  { name := "check"
    about := "Load and assemble the security artifacts found in a directory"
    options := [artifactsOption, verboseFlag] ++ informing
    make? := CheckCommand.ofGiven? }]

def toolName : String := "ovtool"

def releaseName : String := "ownership-voucher"

def releaseNumber : String := "0.1.0"

/-- The name under which help is asked for like a command. -/
def helpName : String := "help"

/-- What asking for help like a command is about. -/
def helpAbout : String := "Print this message or the help of the given subcommand(s)"

def toolOptions : List OptionSpec := verboseFlag :: informing

def toolPage : HelpPage where
  about := "Ownership voucher tool"
  usage := toolName ++ " " ++ OptionSpec.usage toolOptions ++ " <COMMAND>"
  sections := [
    ⟨"Commands", commands.map (fun spec => (spec.name, spec.about)) ++ [(helpName, helpAbout)]⟩,
    OptionSpec.helpSection toolOptions]

def CommandSpec.page (spec : CommandSpec) : HelpPage where
  about := spec.about
  usage := toolName ++ " " ++ spec.name ++ " " ++ OptionSpec.usage spec.options
  sections := [OptionSpec.helpSection spec.options]

def helpPage : HelpPage where
  about := helpAbout
  usage := toolName ++ " " ++ helpName ++ " [COMMAND]..."
  sections := [⟨"Arguments", [("[COMMAND]...", "Print help for the subcommand(s)")]⟩]

/-- Why arguments make up no command to run. -/
inductive Refusal
  /-- Something is to be shown instead. -/
  | shows (text : String)
  /-- The arguments are wrong; the page says how they should be. -/
  | misused (page : HelpPage)
deriving DecidableEq, Repr

/-- What a stop comes to, for the command with a help page and a name under which the version is
shown. -/
def Refusal.ofStop (page : HelpPage) (name : String) : Stop → Refusal
  | .help => .shows page.text
  | .version => .shows (name ++ " " ++ releaseNumber ++ "\n")
  | .misused => .misused page

/-- Help on a command, or on the whole tool. -/
def readHelp (arguments : List String) : Refusal :=
  match arguments with
  | [] => .shows toolPage.text
  | name :: rest =>
    match commands.find? (·.name == name) with
    | some spec => if rest.isEmpty then .shows spec.page.text else .misused spec.page
    | none =>
      if name ≠ helpName then .misused toolPage
      else if rest.isEmpty then .shows helpPage.text
      else .misused helpPage

def CommandSpec.read (spec : CommandSpec) (verbose : Bool) (arguments : List String) :
    Except Refusal Invocation :=
  match readOptions spec.options [] none arguments with
  | .error stop => .error (.ofStop spec.page (releaseName ++ "-" ++ spec.name) stop)
  | .ok given =>
    match spec.make? given with
    | some command => .ok ⟨verbose || given.has verboseFlag.name, command⟩
    | none => .error (.misused spec.page)

/-- Reads arguments up to the name of a command and then those of the command. -/
def readArguments (given : Given) : List String → Except Refusal Invocation
  | [] => .error (.misused toolPage)
  | argument :: rest =>
    if argument = helpName then .error (readHelp rest)
    else
      match commands.find? (·.name == argument), readOption? toolOptions given argument with
      | some spec, _ => spec.read (given.has verboseFlag.name) rest
      | none, some (.ok (given, _)) => readArguments given rest
      | none, some (.error stop) => .error (.ofStop toolPage releaseName stop)
      | none, none => .error (.misused toolPage)

/-- The invocation that the arguments of the tool make up. -/
def Invocation.ofArguments (arguments : List String) : Except Refusal Invocation :=
  readArguments [] arguments

end BootstrapVoucher.Tool
