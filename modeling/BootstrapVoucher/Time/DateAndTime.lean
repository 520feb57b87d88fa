import BootstrapVoucher.Bytes
import BootstrapVoucher.Time.Instant

/-!
# Date-and-time texts

The canonical text of an instant is an RFC 3339 timestamp in UTC with a `Z` and as many fraction
digits, in groups of three, as are needed to be exact. Years outside 0 to 9999 are written with a
sign. Reading is more liberal: either case of the letters, a blank between date and time, any number
of fraction digits and any offset from UTC below a day are accepted, but years have four digits. The
text of a leap second within a minute is also the text of the next second, and is read as that.
-/

namespace BootstrapVoucher.Time

/-- The fraction digits that are written for a number of nanoseconds below a second. -/
def fraction (nanos : Nat) : List Char :=
  if nanos = 0 then []
  else if nanos % 1000000 = 0 then '.' :: Text.fixedDigits 3 (nanos / 1000000)
  else if nanos % 1000 = 0 then '.' :: Text.fixedDigits 6 (nanos / 1000)
  else '.' :: Text.fixedDigits 9 nanos

/-- Four digits for the years 0 to 9999, a sign and at least four digits for all others. -/
def yearText (year : Int) : List Char :=
  if 0 ≤ year ∧ year ≤ 9999 then Text.fixedDigits 4 year.toNat
  else (if year < 0 then '-' else '+') :: Text.paddedDigits 4 year.natAbs

def Date.text (d : Date) : List Char :=
  yearText d.year ++ '-' :: Text.fixedDigits 2 d.month ++ '-' :: Text.fixedDigits 2 d.day

namespace Instant

/-- The text of the time of day. A leap second is shown as the second after the one it doubles, which
at the end of a minute has the number 60. -/
def timeText (t : Instant) : List Char :=
  let s := t.secondOfDay
  let leap := if t.isLeap then 1 else 0
  Text.fixedDigits 2 (s / 3600) ++ ':' :: Text.fixedDigits 2 (s / 60 % 60) ++
    ':' :: Text.fixedDigits 2 (s % 60 + leap) ++ fraction (t.nanos % second)

/-- The text of an instant in messages, such as `2026-10-18 09:30:00 UTC`. -/
def text (t : Instant) : String :=
  String.ofList (t.date.text ++ ' ' :: t.timeText ++ " UTC".toList)

end Instant

namespace DateAndTime

/-- The canonical date-and-time text of an instant, such as `2026-10-18T09:30:00Z`. -/
def format (t : Instant) : String :=
  String.ofList (t.date.text ++ 'T' :: t.timeText ++ ['Z'])

/-- Why a text is not a date and time. -/
inductive Fault
  | tooShort
  | invalid
  | outOfRange
  | trailing
deriving DecidableEq, Repr

def Fault.message : Fault → String
  | .tooShort => "premature end of input"
  | .invalid => "input contains invalid characters"
  | .outOfRange => "input is out of range"
  | .trailing => "trailing input"

def number (digits : Bytes) : Except Fault Nat :=
  digits.foldlM (fun n x =>
    match Text.digitValue? x with
    | some d => .ok (10 * n + d)
    | none => .error .invalid) 0

/-- Requires a byte at the front and returns the rest. -/
def expect (x : UInt8) : Bytes → Except Fault Bytes
  | [] => .error .tooShort
  | y :: rest => if y = x then .ok rest else .error .invalid

/-- The leading digits of a text and what follows them. -/
def spanDigits (s : Bytes) : Bytes × Bytes :=
  s.span fun x => (Text.digitValue? x).isSome

/-- The nanoseconds of a fraction that follows its point: at least one digit, the digits after the
ninth without effect. -/
def nanoseconds (s : Bytes) : Except Fault (Nat × Bytes) :=
  match spanDigits s with
  | ([], []) => .error .tooShort
  | ([], _) => .error .invalid
  | (digits, rest) => do
    let kept := digits.take 9
    return ((← number kept) * Text.powerOfTen (9 - kept.length), rest)

/-- The sign of an offset; the typographic minus is accepted too. -/
def sign : Bytes → Except Fault (Int × Bytes)
  | [] => .error .tooShort
  | 43 :: rest => .ok (1, rest)
  | 45 :: rest => .ok (-1, rest)
  | 0xE2 :: 0x88 :: 0x92 :: rest => .ok (-1, rest)
  | _ => .error .invalid

def twoDigits : Bytes → Except Fault (Nat × Bytes)
  | a :: b :: rest => do return (← number [a, b], rest)
  | _ => .error .tooShort

/-- The offset from UTC in seconds: `Z`, or a sign, hours and minutes. -/
def offset (s : Bytes) : Except Fault (Int × Bytes) :=
  match s with
  | 90 :: rest | 122 :: rest => .ok (0, rest)
  | _ => do
    let (direction, s) ← sign s
    let (hours, s) ← twoDigits s
    let s ← expect 58 s
    let (minutes, s) ← twoDigits s
    if 60 ≤ minutes then .error .outOfRange
    else return (direction * (hours * 3600 + minutes * 60), s)

def date (s : Bytes) : Except Fault (Date × Bytes) := do
  let year ← number (s.take 4)
  let s ← expect 45 (s.drop 4)
  let month ← number (s.take 2)
  let s ← expect 45 (s.drop 2)
  let day ← number (s.take 2)
  let date : Date := ⟨year, month, day⟩
  if date.exists? then return (date, s.drop 2) else .error .outOfRange

/-- The nanoseconds of the fraction at the front; there are none where no point follows. -/
def fractionAt (s : Bytes) : Except Fault (Nat × Bytes) :=
  match s with
  | 46 :: rest => nanoseconds rest
  | rest => .ok (0, rest)

/-- The second of the day of a time that exists, and its nanoseconds. The second 60 of any minute is
its leap second. -/
def clock (hour minute written nanos : Nat) : Except Fault (Nat × Nat) :=
  let (sec, nanos) := if written = 60 then (59, nanos + second) else (written, nanos)
  if hour < 24 ∧ minute < 60 ∧ sec < 60 then .ok (hour * 3600 + minute * 60 + sec, nanos)
  else .error .outOfRange

/-- Reads a time of day: the second of the day and its nanoseconds. -/
def timeOfDay (s : Bytes) : Except Fault ((Nat × Nat) × Bytes) := do
  let hour ← number (s.take 2)
  let s ← expect 58 (s.drop 2)
  let minute ← number (s.take 2)
  let s ← expect 58 (s.drop 2)
  let written ← number (s.take 2)
  let (nanos, s) ← fractionAt (s.drop 2)
  return (← clock hour minute written nanos, s)

/-- Requires what may stand between date and time. -/
def separator : Bytes → Except Fault Bytes
  | 84 :: rest | 116 :: rest | 32 :: rest => .ok rest
  | _ => .error .invalid

/-- The instant that a date-and-time text denotes. -/
def parse (text : String) : Except Fault Instant := do
  let s := Bytes.ofText text
  if s.length < 19 then .error .tooShort
  let (date, s) ← date s
  let s ← separator s
  let ((seconds, nanos), s) ← timeOfDay s
  let (offset, s) ← offset s
  if !s.isEmpty then .error .trailing
  if 86400 ≤ offset.natAbs then .error .outOfRange
  match Instant.of? (date.toDays * 86400 + seconds - offset) nanos with
  | some t => .ok t
  | none => .error .outOfRange

end DateAndTime

end BootstrapVoucher.Time
