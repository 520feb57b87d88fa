/-!
# Log records

What an operation reports besides its result is part of its value: a logged value carries the
records written while it was computed, oldest first.
-/

namespace BootstrapVoucher

/-- The importance of a log record. -/
inductive Level
  | debug
  | info
  | warn
deriving DecidableEq, Repr

def Level.text : Level → String
  | .debug => "DEBUG"
  | .info => "INFO"
  | .warn => "WARN"

/-- A message with its importance. -/
structure Record where
  level : Level
  text : String
deriving DecidableEq, Repr

/-- A value and the records written while it was computed, oldest first. -/
structure Logged (α : Type) where
  value : α
  records : List Record

namespace Logged

instance : Monad Logged where
  pure a := ⟨a, []⟩
  bind x f := ⟨(f x.value).value, x.records ++ (f x.value).records⟩

def write (level : Level) (text : String) : Logged Unit := ⟨(), [⟨level, text⟩]⟩

end Logged

end BootstrapVoucher
