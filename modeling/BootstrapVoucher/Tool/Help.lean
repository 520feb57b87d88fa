import BootstrapVoucher.Tool.Options

/-!
# Help pages

A help page says what a command is about, how it is used, and lists terms with their explanations.
The explanations of a list stand in one column, behind the longest term.
-/

namespace BootstrapVoucher.Tool

/-- A list of terms and explanations under a heading. -/
structure HelpSection where
  heading : String
  entries : List (String × String)
deriving DecidableEq, Repr

/-- What help shows. -/
structure HelpPage where
  about : String
  usage : String
  sections : List HelpSection
deriving DecidableEq, Repr

namespace HelpSection

def termWidth (s : HelpSection) : Nat := (s.entries.map (·.1.length)).foldl max 0

/-- The lines of a list; each is filled up with spaces to the column of the explanations. -/
def text (s : HelpSection) : String :=
  s.heading ++ ":\n" ++ String.join (s.entries.map fun (term, explanation) =>
    "  " ++ term ++ String.ofList (List.replicate (s.termWidth - term.length + 2) ' ') ++
      explanation ++ "\n")

end HelpSection

namespace HelpPage

/-- The line that says how a command is used. -/
def usageLine (page : HelpPage) : String := "Usage: " ++ page.usage ++ "\n"

def text (page : HelpPage) : String :=
  page.about ++ "\n\n" ++ page.usageLine ++
    String.join (page.sections.map fun s => "\n" ++ s.text)

end HelpPage

namespace OptionSpec

/-- An option by its name, and by what stands for its value. -/
def form (spec : OptionSpec) : String :=
  "--" ++ spec.name ++
    if spec.hasValue then
      " <" ++ String.ofList (spec.name.toList.map fun c => if c = '-' then '_' else c.toUpper) ++ ">"
    else ""

def term (spec : OptionSpec) : String :=
  match spec.letter with
  | some c => "-" ++ String.singleton c ++ ", " ++ spec.form
  | none => "    " ++ spec.form

/-- The help on an option, with the value that counts if it is absent. -/
def explanation (spec : OptionSpec) : String :=
  match spec.default with
  | some value =>
    (if spec.help.isEmpty then "" else spec.help ++ " ") ++ "[default: " ++ value ++ "]"
  | none => spec.help

def helpSection (specs : List OptionSpec) : HelpSection :=
  ⟨"Options", specs.map fun spec => (spec.term, spec.explanation)⟩

/-- The options as they stand in a usage line: those that may be given, and those that must be. -/
def usage (specs : List OptionSpec) : String :=
  String.join ("[OPTIONS]" :: (specs.filter (·.required)).map (" " ++ ·.form))

end OptionSpec

end BootstrapVoucher.Tool
