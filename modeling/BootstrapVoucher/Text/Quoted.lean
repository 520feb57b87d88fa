import BootstrapVoucher.Text.Unprintable

/-!
# Quoted text

Error messages and debugging output quote texts and single characters. The delimiter, the
backslash and the usual controls have short escapes, a character without a printed form is shown by
its number, and every other character stands for itself.
-/

namespace BootstrapVoucher.Text

/-- A character inside quotation marks of the kind `delimiter`. -/
def escaped (delimiter c : Char) : List Char :=
  if c = '\x00' then ['\\', '0']
  else if c = '\t' then ['\\', 't']
  else if c = '\r' then ['\\', 'r']
  else if c = '\n' then ['\\', 'n']
  else if c = '\\' ∨ c = delimiter then ['\\', c]
  else if isUnprintable c then
    ['\\', 'u', '\x7b'] ++ Nat.toDigits 16 c.toNat ++ ['\x7d']
  else [c]

/-- A text between double quotation marks. -/
def quoted (s : String) : String :=
  String.ofList ('"' :: s.toList.flatMap (escaped '"') ++ ['"'])

/-- A character between single quotation marks. -/
def quotedChar (c : Char) : String :=
  String.ofList ('\'' :: escaped '\'' c ++ ['\''])

end BootstrapVoucher.Text
