import BootstrapVoucher.Time.Calendar
import BootstrapVoucher.Time.Span

/-!
# Instants

An instant is a second of the UTC time line and the nanoseconds passed in it. A leap second is the
second half of a doubled second: its nanoseconds run from one thousand million on. Any second can be
doubled, but only at the end of a minute does the text of a leap second tell it from the second that
follows it. Instants are ordered by their second, then by their nanoseconds, so a leap second comes
after the second it doubles and before the next one.
-/

namespace BootstrapVoucher.Time

/-- A point of UTC time between the years -262143 and 262142. -/
structure Instant where
  /-- Seconds since 1970-01-01 00:00:00, leap seconds not counted. -/
  seconds : Int
  /-- Nanoseconds in the second; those of a leap second start at one thousand million. -/
  nanos : Nat
  first_le : -8334601228800 ≤ seconds := by omega
  le_last : seconds ≤ 8210266876799 := by omega
  nanos_lt : nanos < 2 * second := by omega
deriving DecidableEq

namespace Instant

/-- The instant of a second and its nanoseconds, if there is one. -/
def of? (seconds : Int) (nanos : Nat) : Option Instant :=
  if h : (-8334601228800 ≤ seconds ∧ seconds ≤ 8210266876799) ∧ nanos < 2 * second then
    some ⟨seconds, nanos, h.1.1, h.1.2, h.2⟩
  else none

def isLeap (t : Instant) : Bool := second ≤ t.nanos

instance : LT Instant where
  lt a b := a.seconds < b.seconds ∨ a.seconds = b.seconds ∧ a.nanos < b.nanos

instance : LE Instant where
  le a b := a.seconds < b.seconds ∨ a.seconds = b.seconds ∧ a.nanos ≤ b.nanos

instance (a b : Instant) : Decidable (a < b) :=
  inferInstanceAs (Decidable (a.seconds < b.seconds ∨ a.seconds = b.seconds ∧ a.nanos < b.nanos))

instance (a b : Instant) : Decidable (a ≤ b) :=
  inferInstanceAs (Decidable (a.seconds < b.seconds ∨ a.seconds = b.seconds ∧ a.nanos ≤ b.nanos))

/-- The number of the day, counted from 1970-01-01. -/
def day (t : Instant) : Int := t.seconds / 86400

/-- The second of the day, from 0 to 86399. -/
def secondOfDay (t : Instant) : Nat := (t.seconds % 86400).toNat

def date (t : Instant) : Date := Date.ofDays t.day

/-- The instant with the fraction of its second cut off. -/
def wholeSecond (t : Instant) : Instant :=
  { t with
    nanos := if second ≤ t.nanos then second else 0
    nanos_lt := by split <;> decide }

/-- The instant a span later, unless that leaves the time line. Time that passes within a leap second
stays in it; a span that leaves a leap second, forward or backward, counts as if the second had not
been doubled. -/
def add? (t : Instant) (v : Span) : Option Instant :=
  let seconds := v.wholeSeconds
  let fraction := v.subsecond
  let passes := 0 < seconds ∨ 0 < fraction ∧ 2 * (second : Int) ≤ t.nanos + fraction
  if second ≤ t.nanos ∧ ¬ passes ∧ 0 ≤ seconds then
    of? t.seconds (t.nanos + fraction).toNat
  else
    let start : Int := if second ≤ t.nanos ∧ passes then t.nanos - second else t.nanos
    let total := t.seconds * second + start + v.nanos
    of? (total / second) (total % second).toNat

/-- The span from `a` to `b`. A leap second that is an end point counts as a second of its own when
the other end point has a later second of the day. -/
def spanTo (a b : Instant) : Span :=
  let extra : Int :=
    if a.secondOfDay < b.secondOfDay ∧ second ≤ a.nanos then 1
    else if b.secondOfDay < a.secondOfDay ∧ second ≤ b.nanos then -1
    else 0
  ⟨(b.seconds - a.seconds + extra) * second + (b.nanos - a.nanos : Int)⟩

end Instant

end BootstrapVoucher.Time
