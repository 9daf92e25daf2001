import Certification.Json.Record
import Certification.Text.Blank
import Certification.Text.Digit
import Certification.Text.Padding
import Certification.Time.Duration

/-!
# Time stamps

Moments of the proleptic Gregorian calendar in universal time. The written form is a date, a time
with no fraction or one of three, six or nine digits, and the letter `Z`. The reader takes more:
blanks between the parts, shorter numbers, a blank or a small letter for the `T`, and any offset
from universal time. A leap second is kept as nanoseconds beyond the second before it.
-/

namespace Certification

/-- A moment: whole seconds since the start of 1970, and nanoseconds, which reach into a second
second when the moment lies in a leap second. -/
structure Timestamp where
  seconds : Int
  nanos : Nat
  deriving DecidableEq, Repr

namespace Timestamp

/-- The start of 1970. -/
def epoch : Timestamp := ⟨0, 0⟩

/-! ## Calendar -/

/-- Days from the start of 1970 to a date. -/
def daysOfDate (year : Int) (month day : Nat) : Int :=
  let y := if month ≤ 2 then year - 1 else year
  let shifted : Int := ((month + 9) % 12 : Nat)
  let era := y / 400
  let yearOfEra := y % 400
  let dayOfYear := (153 * shifted + 2) / 5 + day - 1
  let dayOfEra := yearOfEra * 365 + yearOfEra / 4 - yearOfEra / 100 + dayOfYear
  era * 146097 + dayOfEra - 719468

/-- The date that lies a number of days after the start of 1970: year, month and day. -/
def dateOfDays (days : Int) : Int × Nat × Nat :=
  let z := days + 719468
  let era := z / 146097
  let dayOfEra := z % 146097
  let yearOfEra := (dayOfEra - dayOfEra / 1460 + dayOfEra / 36524 - dayOfEra / 146096) / 365
  let dayOfYear := dayOfEra - (365 * yearOfEra + yearOfEra / 4 - yearOfEra / 100)
  let shifted := (5 * dayOfYear + 2) / 153
  let day := dayOfYear - (153 * shifted + 2) / 5 + 1
  let month := if shifted < 10 then shifted + 3 else shifted - 9
  let year := yearOfEra + era * 400 + (if month ≤ 2 then 1 else 0)
  (year, month.toNat, day.toNat)

/-- Whether a year has a leap day. -/
def isLeapYear (year : Int) : Bool := year % 4 == 0 && (year % 100 != 0 || year % 400 == 0)

/-- Number of days in a month. -/
def daysInMonth (year : Int) (month : Nat) : Nat :=
  if month = 2 then (if isLeapYear year then 29 else 28)
  else if month = 4 ∨ month = 6 ∨ month = 9 ∨ month = 11 then 30
  else 31

/-! ## Writing -/

/-- Text of a year: four digits, and a sign beyond them. -/
def yearText (year : Int) : String :=
  if 0 ≤ year ∧ year ≤ 9999 then Text.zeroPadded 4 year.toNat
  else (if year < 0 then "-" else "+") ++ Text.zeroPadded 4 year.natAbs

/-- Text of the date. -/
def dateText (t : Timestamp) : String :=
  match dateOfDays (t.seconds / 86400) with
  | (year, month, day) =>
    yearText year ++ "-" ++ Text.zeroPadded 2 month ++ "-" ++ Text.zeroPadded 2 day

/-- Text of the time of day in whole seconds; a leap second is the sixtieth. -/
def clockText (t : Timestamp) : String :=
  let second := (t.seconds % 86400).toNat
  let leap := t.nanos / 10 ^ 9
  Text.zeroPadded 2 (second / 3600) ++ ":" ++ Text.zeroPadded 2 (second / 60 % 60) ++ ":" ++
    Text.zeroPadded 2 (second % 60 + leap)

/-- Text of the fraction of a second, in thousands as fine as needed. -/
def fractionText (nanos : Nat) : String :=
  if nanos = 0 then ""
  else if nanos % 10 ^ 6 = 0 then "." ++ Text.zeroPadded 3 (nanos / 10 ^ 6)
  else if nanos % 10 ^ 3 = 0 then "." ++ Text.zeroPadded 6 (nanos / 10 ^ 3)
  else "." ++ Text.zeroPadded 9 nanos

/-- Written form. -/
def write (t : Timestamp) : String :=
  t.dateText ++ "T" ++ t.clockText ++ fractionText (t.nanos % 10 ^ 9) ++ "Z"

/-- Form for readers, in whole seconds. -/
def display (t : Timestamp) : String := t.dateText ++ " " ++ t.clockText ++ " UTC"

/-! ## Reading -/

/-- Reads a part of a text and leaves the rest. -/
abbrev Scanner (α : Type) := StateT (List Char) (Except DecodeError) α

/-- Passes over blanks. -/
def skipBlanks : Scanner Unit := modify Text.trimStart

/-- Reads a natural number of at most so many digits. -/
def scanNumber (width : Nat) : Scanner Nat := do
  let cs ← get
  let digits := (cs.takeWhile Char.isDigit).take width
  let n := Nat.ofDigitChars 10 digits 0
  if cs.isEmpty then throw .timeTooShort
  else if digits.isEmpty then throw .timeInvalid
  else if 2 ^ 63 ≤ n then throw .timeOutOfRange
  else
    set (cs.drop digits.length)
    pure n

/-- Reads a number of two digits after blanks and checks its bounds. -/
def scanBounded (low high : Nat) : Scanner Nat := do
  skipBlanks
  let n ← scanNumber 2
  if low ≤ n ∧ n ≤ high then pure n else throw .timeOutOfRange

/-- Reads a character that passes a test. -/
def scanChar (passes : Char → Bool) : Scanner Unit := do
  match ← get with
  | [] => throw .timeTooShort
  | c :: rest => if passes c then set rest else throw .timeInvalid

/-- Reads a mark after blanks. -/
def scanMark (mark : Char) : Scanner Unit := do
  skipBlanks
  scanChar (· == mark)

/-- Reads a year after blanks: four digits at most, or any number after a sign. -/
def scanYear : Scanner Int := do
  skipBlanks
  let year : Int ← match ← get with
    | '-' :: rest => do
      set rest
      let n ← scanNumber rest.length
      pure (-(n : Int))
    | '+' :: rest => do
      set rest
      let n ← scanNumber rest.length
      pure (n : Int)
    | _ => do
      let n ← scanNumber 4
      pure (n : Int)
  if -2 ^ 31 ≤ year ∧ year < 2 ^ 31 then pure year else throw .timeOutOfRange

/-- Reads the fraction of a second in nanoseconds, if there is one; digits beyond are dropped. -/
def scanFraction : Scanner Nat := do
  match ← get with
  | '.' :: rest =>
    set rest
    let n ← scanNumber 9
    let width := rest.length - (← get).length
    modify (·.dropWhile Char.isDigit)
    pure (n * 10 ^ (9 - width))
  | _ => pure 0

/-- Reads two digits. A text of one byte is too short for them. -/
def scanTwoDigits : Scanner Nat := do
  match ← get with
  | a :: b :: rest =>
    match Text.digit? a, Text.digit? b with
    | some a, some b =>
      set rest
      pure (10 * a + b)
    | _, _ => throw .timeInvalid
  | [c] => if c.toNat < 0x80 then throw .timeTooShort else throw .timeInvalid
  | [] => throw .timeTooShort

/-- Reads hours and minutes of an offset, in seconds. -/
def scanOffsetSize : Scanner Nat := do
  let hours ← scanTwoDigits
  modify (·.dropWhile fun c ↦ c == ':' || Text.isBlank c)
  let minutes ← scanTwoDigits
  if 60 ≤ minutes then throw .timeOutOfRange else pure (hours * 3600 + minutes * 60)

/-- Whether a character is a letter, large or small. -/
def isLetterOf (upper c : Char) : Bool := c == upper || c == upper.toLower

/-- The rest after the name of universal time: its letter, or its three letters. -/
def afterUniversal? : List Char → Option (List Char)
  | a :: b :: c :: rest =>
    if isLetterOf 'U' a && isLetterOf 'T' b && isLetterOf 'C' c then some rest
    else if isLetterOf 'Z' a then some (b :: c :: rest)
    else none
  | a :: rest => if isLetterOf 'Z' a then some rest else none
  | [] => none

/-- Reads an offset from universal time, in seconds. -/
def scanOffset : Scanner Int := do
  let cs ← get
  match afterUniversal? cs with
  | some rest =>
    set rest
    pure 0
  | none =>
    scanChar fun c ↦ c == '+' || c == '-' || c == '\u2212'
    let size ← scanOffsetSize
    pure (if cs.head? = some '+' then (size : Int) else -(size : Int))

/-- First and last year of the calendar. -/
def yearInRange (year : Int) : Bool := -262143 ≤ year && year ≤ 262142

/-- Whether a moment lies in the calendar in universal time, leap seconds aside. -/
def secondsInRange (seconds : Int) : Bool := yearInRange (dateOfDays (seconds / 86400)).1

/-- Reads a time stamp up to the end of the text. The date as it is written must lie in the
calendar, and so must the moment in universal time. -/
def scan : Scanner Timestamp := do
  let year ← scanYear
  scanMark '-'
  let month ← scanBounded 1 12
  scanMark '-'
  let day ← scanBounded 1 31
  scanChar fun c ↦ isLetterOf 'T' c || c == ' '
  let hour ← scanBounded 0 23
  scanMark ':'
  let minute ← scanBounded 0 59
  scanMark ':'
  let second ← scanBounded 0 60
  let fraction ← scanFraction
  skipBlanks
  let offset ← scanOffset
  skipBlanks
  if !(← get).isEmpty then throw .timeTooLong
  else if !yearInRange year || daysInMonth year month < day then throw .timeOutOfRange
  else if 86400 ≤ offset.natAbs then throw .timeOutOfRange
  else
    let leap := second / 60
    let clock : Int := (hour * 3600 + minute * 60 + (second - leap) : Nat)
    let seconds := daysOfDate year month day * 86400 + clock - offset
    if secondsInRange seconds then pure ⟨seconds, fraction + leap * 10 ^ 9⟩
    else throw .timeImpossible

/-- Reads a time stamp. -/
def parse (s : String) : Except DecodeError Timestamp := scan.run' s.toList

/-- How a time stamp is named where it was expected. -/
def expected : String := "an RFC 3339 formatted date and time string"

/-- Reads a time stamp in data. -/
def decode : Decoder Timestamp := fun _ d ↦
  match d with
  | .string s => parse s
  | d => Decoder.mismatch expected d

/-- The time stamp in data. -/
def toJson (t : Timestamp) : Json := .string t.write

/-! ## Differences -/

/-- Nanoseconds from one moment to another. Between two days or two seconds of a day, a leap second
on the earlier side counts as a second of its own. -/
def nanosSince (later earlier : Timestamp) : Int :=
  let clock (t : Timestamp) : Int := t.seconds % 86400
  let inLeap (t : Timestamp) : Int := if 10 ^ 9 ≤ t.nanos then 1 else 0
  let adjustment : Int :=
    if clock earlier < clock later then inLeap earlier
    else if clock later < clock earlier then -inLeap later
    else 0
  (later.seconds - earlier.seconds + adjustment) * 10 ^ 9 + (later.nanos - earlier.nanos : Int)

/-- The time from one moment to a later one; none when the other is not later. -/
def since (later earlier : Timestamp) : Duration :=
  .ofNanos (nanosSince later earlier).toNat

end Timestamp

end Certification
