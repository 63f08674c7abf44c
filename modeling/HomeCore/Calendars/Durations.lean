import HomeCore.Types.Device
import HomeCore.Types.Text

/-! How long a calendar's event lasts, as its DURATION property gives it, and adding that to
the event's start. Lengths and moments are whole nanoseconds, within the range that the time
library represents; what leaves it panics. -/
namespace HomeCore.Calendars

/-- The largest number of 64 bits with a sign. -/
def maxI64 : Nat := 2 ^ 63 - 1

/-- The time library's longest length, in either direction: 2⁶³ - 1 milliseconds. -/
def maxDelta : Int := maxI64 * 1000000

/-- The first and the last moment that it represents, of the years -262143 and 262142. -/
def minMoment : Int := -8334601228800 * second

def maxMoment : Int := 8210266876800 * second - 1

/-- A moment of the time library. -/
structure Moment where
  nanos : Int
  notBefore : minMoment ≤ nanos
  notAfter : nanos ≤ maxMoment

/-- How reading a length fails: a number is multiplied out of its 64 bits, or a length leaves
the time library's range. -/
inductive DurationFault where
  | overflowed
  | panicked
  deriving DecidableEq

def checkedDelta (nanos : Int) : Except DurationFault Int :=
  if -maxDelta ≤ nanos ∧ nanos ≤ maxDelta then .ok nanos else .error .panicked

/-- `DateTime + TimeDelta`. -/
def Moment.after (start : Moment) (delta : Int) : Except DurationFault Int :=
  if minMoment ≤ start.nanos + delta ∧ start.nanos + delta ≤ maxMoment then .ok (start.nanos + delta)
  else .error .panicked

/-! ## Reading a length -/

def digitsValue (digits : List Char) : Nat :=
  digits.foldl (fun value c => 10 * value + (c.toNat - '0'.toNat)) 0

/-- `num_buf.parse::<i64>().unwrap_or(0)`. -/
def amount (digits : List Char) : Nat :=
  if digits ≠ [] ∧ digitsValue digits ≤ maxI64 then digitsValue digits else 0

/-- What the loop has read. -/
structure DurationScan where
  days : Nat
  hours : Nat
  minutes : Nat
  seconds : Nat
  inTime : Bool
  numBuf : List Char
  deriving DecidableEq

def DurationScan.start : DurationScan := ⟨0, 0, 0, 0, false, []⟩

def isDigit (c : Char) : Bool := '0' ≤ c && c ≤ '9'

def scanChar (scan : DurationScan) (c : Char) : Except DurationFault DurationScan :=
  if c = 'T' then .ok { scan with inTime := true }
  else if isDigit c then .ok { scan with numBuf := scan.numBuf ++ [c] }
  else if c = 'D' ∧ !scan.inTime then .ok { scan with days := amount scan.numBuf, numBuf := [] }
  else if c = 'W' ∧ !scan.inTime then
    if amount scan.numBuf * 7 ≤ maxI64 then
      .ok { scan with days := amount scan.numBuf * 7, numBuf := [] }
    else .error .overflowed
  else if c = 'H' ∧ scan.inTime then .ok { scan with hours := amount scan.numBuf, numBuf := [] }
  else if c = 'M' ∧ scan.inTime then .ok { scan with minutes := amount scan.numBuf, numBuf := [] }
  else if c = 'S' ∧ scan.inTime then .ok { scan with seconds := amount scan.numBuf, numBuf := [] }
  else .ok scan

/-- The lengths added up in the order of the source. -/
def DurationScan.length (scan : DurationScan) : Except DurationFault Int := do
  let days ← checkedDelta (scan.days * (86400 * second))
  let hours ← checkedDelta (scan.hours * (3600 * second))
  let sum ← checkedDelta (days + hours)
  let minutes ← checkedDelta (scan.minutes * (60 * second))
  let sum ← checkedDelta (sum + minutes)
  let seconds ← checkedDelta (scan.seconds * second)
  checkedDelta (sum + seconds)

/-- `parse_ics_duration`. -/
def parseIcsDuration (text : String) : Except DurationFault (Option Int) :=
  match trim text.toList with
  | 'P' :: rest => do
    let scan ← rest.foldlM scanChar .start
    let length ← scan.length
    pure (some length)
  | _ => .ok none

/-! ## The grammar -/

/-- One or more digits. -/
structure Digits where
  chars : List Char
  nonempty : chars ≠ []
  areDigits : chars.all isDigit = true

def Digits.value (digits : Digits) : Nat := digitsValue digits.chars

/-- `dur-time`: hours, minutes and seconds, none left out in between. -/
inductive TimePart where
  | hours (n : Digits) (minutes : Option (Digits × Option Digits))
  | minutes (n : Digits) (seconds : Option Digits)
  | seconds (n : Digits)

/-- `dur-value`, but for its sign. -/
inductive DurValue where
  | weeks (n : Digits)
  | days (n : Digits) (time : Option TimePart)
  | time (part : TimePart)

/-- Each number with the letter after it. -/
def TimePart.parts : TimePart → List (Digits × Char)
  | hours n none => [(n, 'H')]
  | hours n (some (m, none)) => [(n, 'H'), (m, 'M')]
  | hours n (some (m, some s)) => [(n, 'H'), (m, 'M'), (s, 'S')]
  | minutes n none => [(n, 'M')]
  | minutes n (some s) => [(n, 'M'), (s, 'S')]
  | seconds n => [(n, 'S')]

def writeParts (parts : List (Digits × Char)) : List Char :=
  parts.flatMap fun part => part.1.chars ++ [part.2]

namespace DurValue

def dateParts : DurValue → List (Digits × Char)
  | weeks n => [(n, 'W')]
  | days n _ => [(n, 'D')]
  | time _ => []

def timeParts : DurValue → Option (List (Digits × Char))
  | weeks _ => none
  | days _ part => part.map TimePart.parts
  | time part => some part.parts

def parts (value : DurValue) : List (Digits × Char) := value.dateParts ++ value.timeParts.getD []

def text (value : DurValue) : List Char :=
  'P' :: (writeParts value.dateParts ++ (value.timeParts.elim [] fun parts => 'T' :: writeParts parts))

end DurValue

def unitSeconds : Char → Nat
  | 'W' => 604800
  | 'D' => 86400
  | 'H' => 3600
  | 'M' => 60
  | 'S' => 1
  | _ => 0

/-- The sign and what it stands before. -/
inductive Sign where
  | unsigned
  | plus
  | minus
  deriving DecidableEq

def Sign.text : Sign → List Char
  | unsigned => []
  | plus => ['+']
  | minus => ['-']

def Sign.apply (sign : Sign) (length : Int) : Int := if sign = minus then -length else length

/-- What the grammar denotes, in nanoseconds. -/
def DurValue.denotes (value : DurValue) : Int :=
  ((value.parts.map fun part => part.1.value * unitSeconds part.2).sum : Nat) * second

/-- Reading a DURATION neither overflows nor panics, and neither does the end of an event that
starts then and lasts so long; what the grammar allows is read as it denotes. -/
structure DurationSound (text : String) (start : Moment) : Prop where
  returns : ∃ read, parseIcsDuration text = .ok read
  denotes : ∀ (sign : Sign) (value : DurValue), text.toList = sign.text ++ value.text →
    parseIcsDuration text = .ok (some (sign.apply value.denotes))
  ends : ∀ delta, parseIcsDuration text = .ok (some delta) → ∃ moment, start.after delta = .ok moment

end HomeCore.Calendars
