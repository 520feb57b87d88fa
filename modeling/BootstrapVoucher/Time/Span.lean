import BootstrapVoucher.Text.Decimal

/-!
# Spans of time

A span is a signed number of nanoseconds. Its text is an ISO 8601 duration that uses days for the
empty span and seconds for every other.
-/

namespace BootstrapVoucher.Time

abbrev second : Nat := 1000000000

/-- A signed length of time. -/
structure Span where
  nanos : Int
deriving DecidableEq, Repr

namespace Span

/-- The longest span that is counted in days, in milliseconds. -/
def maxMillis : Nat := 1 <<< 63 - 1

/-- A whole number of seconds and a number of nanoseconds. -/
def ofSeconds (seconds : Int) (nanos : Int) : Span := ⟨seconds * second + nanos⟩

/-- A whole number of days, as far as it is within the longest span. -/
def ofDays? (days : Int) : Option Span :=
  if (days * 86400000).natAbs ≤ maxMillis then some ⟨days * 86400 * second⟩ else none

def ofDays (days : Nat) : Span := ⟨days * 86400 * second⟩

/-- The whole seconds of a span, rounded toward zero. -/
def wholeSeconds (v : Span) : Int := v.nanos.tdiv second

/-- What is left of a span without its whole seconds; it has the span's sign. -/
def subsecond (v : Span) : Int := v.nanos.tmod second

/-- The digits of a fraction of a second given in nanoseconds, without the zeros at the end. -/
def fractionDigits (nanos : Nat) : List Char :=
  ((Text.fixedDigits 9 nanos).reverse.dropWhile (· == '0')).reverse

/-- The text of a span, such as `PT31536000S`, `-PT0.5S` or `P0D`. -/
def text (v : Span) : String :=
  let size := v.nanos.natAbs
  let fraction := fractionDigits (size % second)
  String.ofList <|
    (if v.nanos < 0 then ['-'] else []) ++ ['P'] ++
      if size = 0 then ['0', 'D']
      else ['T'] ++ Text.digits (size / second) ++
        (if fraction.isEmpty then [] else '.' :: fraction) ++ ['S']

end Span

end BootstrapVoucher.Time
