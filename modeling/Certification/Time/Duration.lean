import Certification.Json.Record
import Certification.Text.Padding

/-!
# Durations

A length of time in seconds and nanoseconds. In data a duration is a record of the two, and
nanoseconds beyond a second carry over; in text it has the largest unit in which it is at least one,
and as many decimals as it takes.
-/

namespace Certification

/-- A length of time. -/
structure Duration where
  seconds : Nat
  nanos : Nat
  nanos_lt : nanos < 10 ^ 9 := by decide
  deriving DecidableEq

namespace Duration

/-- No time at all. -/
def zero : Duration := ⟨0, 0, by decide⟩

instance : Inhabited Duration := ⟨zero⟩

/-- The duration of a number of nanoseconds. -/
def ofNanos (n : Nat) : Duration := ⟨n / 10 ^ 9, n % 10 ^ 9, Nat.mod_lt _ (by decide)⟩

/-- The duration of a number of milliseconds. -/
def ofMillis (n : Nat) : Duration := ofNanos (n * 10 ^ 6)

/-- The duration of a number of seconds. -/
def ofSeconds (n : Nat) : Duration := ⟨n, 0, by decide⟩

/-- The duration as a number of nanoseconds. -/
def toNanos (d : Duration) : Nat := d.seconds * 10 ^ 9 + d.nanos

/-! ## Text -/

/-- A number with a fraction of a given number of digits, without the zeros at its end. -/
def decimalText (whole fraction digits : Nat) : String :=
  let places := (Text.zeroPadded digits fraction).toList.reverse.dropWhile (· == '0')
  let shown := if fraction = 0 then [] else '.' :: places.reverse
  toString whole ++ String.ofList shown

/-- Text of a duration. -/
def text (d : Duration) : String :=
  if 0 < d.seconds then decimalText d.seconds d.nanos 9 ++ "s"
  else if 10 ^ 6 ≤ d.nanos then decimalText (d.nanos / 10 ^ 6) (d.nanos % 10 ^ 6) 6 ++ "ms"
  else if 10 ^ 3 ≤ d.nanos then decimalText (d.nanos / 10 ^ 3) (d.nanos % 10 ^ 3) 3 ++ "\u00B5s"
  else toString d.nanos ++ "ns"

/-! ## Data form -/

/-- How a duration is named where it was expected. -/
def expected : String := "struct Duration"

/-- Names of the fields. -/
def known : List String := ["secs", "nanos"]

/-- The duration of seconds and nanoseconds, which may carry. -/
def carry (seconds nanos : Nat) : Except DecodeError Duration :=
  let d := ofNanos (seconds * 10 ^ 9 + nanos)
  if d.seconds < 2 ^ 64 then .ok d else .error .durationOverflow

/-- Reads the fields from entries in the order they were met; no other field is allowed. -/
def decodeEntries (origin : Origin) : Option Nat → Option Nat →
    List (Option String × Document) → Except DecodeError (Option Nat × Option Nat)
  | seconds, nanos, [] => .ok (seconds, nanos)
  | _, _, (none, _) :: _ => .error .notJson
  | seconds, nanos, (some key, d) :: rest =>
    if key = "secs" then
      if seconds.isSome then .error (.duplicateField "secs")
      else do
        let n ← Decoder.nat64 origin d
        decodeEntries origin (some n) nanos rest
    else if key = "nanos" then
      if nanos.isSome then .error (.duplicateField "nanos")
      else do
        let n ← Decoder.nat32 origin d
        decodeEntries origin seconds (some n) rest
    else .error (.unknownField key known)

/-- Reads a duration. -/
def decode : Decoder Duration := fun origin d ↦
  match d with
  | .object entries closed => do
    let r ← decodeEntries origin none none entries
    if !closed then .error .notJson
    else
      match r with
      | (some seconds, some nanos) => carry seconds nanos
      | (none, _) => .error (.missingField "secs")
      | (_, none) => .error (.missingField "nanos")
  | .array items closed =>
    match items with
    | [] => if closed then .error (.invalidLength 0 expected) else .error .notJson
    | [seconds] => do
      let _ ← Decoder.nat64 origin seconds
      if closed then .error (.invalidLength 1 expected) else .error .notJson
    | seconds :: nanos :: more => do
      let seconds ← Decoder.nat64 origin seconds
      let nanos ← Decoder.nat32 origin nanos
      let d ← carry seconds nanos
      if !closed then .error .notJson
      else
        match Shape.excess? origin 2 more.length with
        | some cause => .error cause
        | none => pure d
  | .buried (.object _ _) | .buried (.array _ _) => .error .notJson
  | d => Decoder.mismatch expected d

/-- Entries of the duration in data, in the order in which they are printed. -/
def entries (d : Duration) : List (String × Json) :=
  [("secs", .ofNat d.seconds), ("nanos", .ofNat d.nanos)]

/-- A duration is determined by its nanoseconds. -/
theorem ofNanos_toNanos (d : Duration) : ofNanos d.toNanos = d := by
  obtain ⟨s, n, h⟩ := d
  simp only [ofNanos, toNanos, Duration.mk.injEq]
  omega

end Duration

end Certification
