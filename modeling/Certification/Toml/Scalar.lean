import Certification.Json.Document
import Certification.Text.Digit
import Certification.Time.Timestamp

/-!
# Scalars in TOML

Numbers, truth values, dates and times: the values that are written without quotes and brackets. A
scalar reaches as far as its characters do, so it is cut out first and classified as a whole. An
integer has 64 bits and a sign. What is written as a number with a fraction or an exponent, and what
is a date or a time, is checked and then kept without its value, because no setting is one.
-/

namespace Certification.Toml

/-- A value that is written without quotes and brackets. -/
inductive Scalar where
  | bool (b : Bool)
  | integer (i : Int)
  /-- A number with a fraction or an exponent, or one of the special ones. -/
  | decimal
  /-- A date, a time or both. -/
  | moment
  deriving DecidableEq, Repr

namespace Scalar

/-- The characters that scalars consist of. -/
def isMember (c : Char) : Bool :=
  c.isAlphanum || c == '_' || c == '+' || c == '-' || c == '.' || c == ':'

/-! ## Integers -/

/-- Digits of a base with single underscores between them, at least one: their values. -/
def grouped? (base : Nat) : List Char → Option (List Nat)
  | [] => none
  | [c] => (digitIn? c).map ([·])
  | c :: '_' :: rest => do
    let digit ← digitIn? c
    let digits ← grouped? base rest
    some (digit :: digits)
  | c :: rest => do
    let digit ← digitIn? c
    let digits ← grouped? base rest
    some (digit :: digits)
where
  /-- Value of a digit of the base. -/
  digitIn? (c : Char) : Option Nat := (Text.hexDigit? c).filter (· < base)

/-- Value of decimal digits without a zero in front. -/
def decimalDigits? (cs : List Char) : Option (List Nat) :=
  (grouped? 10 cs).filter fun digits ↦ digits.length = 1 || digits.head? != some 0

/-- Splits a sign off: whether it is a minus, and the rest. -/
def splitSign : List Char → Bool × List Char
  | '-' :: rest => (true, rest)
  | '+' :: rest => (false, rest)
  | cs => (false, cs)

/-- An integer as it is written, of any size. -/
def unbounded? : List Char → Option Int
  | '0' :: 'x' :: rest => (grouped? 16 rest).map fun digits ↦ (Text.ofDigits 16 digits : Int)
  | '0' :: 'o' :: rest => (grouped? 8 rest).map fun digits ↦ (Text.ofDigits 8 digits : Int)
  | '0' :: 'b' :: rest => (grouped? 2 rest).map fun digits ↦ (Text.ofDigits 2 digits : Int)
  | cs =>
    let signed := splitSign cs
    (decimalDigits? signed.2).map fun digits ↦
      let n : Int := Text.ofDigits 10 digits
      if signed.1 then -n else n

/-- An integer of 64 bits. -/
def integer? (cs : List Char) : Option Int :=
  (unbounded? cs).filter fun i ↦ -2 ^ 63 ≤ i ∧ i < 2 ^ 63

/-! ## Decimals -/

/-- Whether a decimal lies in the range of binary64 numbers. Its size is looked at first, because a
power of ten with a large exponent is not to be written out. -/
def isFinite (significand : Nat) (exponent : Int) : Bool :=
  let size : Int := (Nat.toDigits 10 significand).length + exponent
  if significand = 0 ∨ size < 300 then true
  else if 320 < size then false
  else if 0 ≤ exponent then
    (Binary64.round? false (significand * 10 ^ exponent.toNat * 2 ^ 1074) 1).isSome
  else (Binary64.round? false (significand * 2 ^ 1074) (10 ^ (-exponent).toNat)).isSome

/-- Whether a character starts an exponent. -/
def startsExponent (c : Char) : Bool := c == 'e' || c == 'E'

/-- Value of an exponent with its letter; zero when there is none. -/
def exponent? : List Char → Option Int
  | [] => some 0
  | _ :: cs =>
    let signed := splitSign cs
    (grouped? 10 signed.2).map fun digits ↦
      let n : Int := Text.ofDigits 10 digits
      if signed.1 then -n else n

/-- Digits after a point, with the point; none when there is no point. -/
def fraction? : List Char → Option (List Nat)
  | [] => some []
  | _ :: cs => grouped? 10 cs

/-- Whether characters are a number with a fraction or an exponent that is in range. Only the
greatest number above zero bounds the range: below zero there is an infinity for every number. -/
def isNumber (cs : List Char) : Bool :=
  let signed := splitSign cs
  let body := signed.2.takeWhile (!startsExponent ·)
  let tail := signed.2.dropWhile (!startsExponent ·)
  let point := body.dropWhile (· ≠ '.')
  match decimalDigits? (body.takeWhile (· ≠ '.')), fraction? point, exponent? tail with
  | some whole, some fraction, some exponent =>
    (!point.isEmpty || !tail.isEmpty) &&
      (signed.1 || isFinite (Text.ofDigits 10 (whole ++ fraction)) (exponent - fraction.length))
  | _, _, _ => false

/-- Whether characters are a decimal. -/
def isDecimal (cs : List Char) : Bool :=
  let unsigned := (splitSign cs).2
  unsigned == ['i', 'n', 'f'] || unsigned == ['n', 'a', 'n'] || isNumber cs

/-! ## Dates and times -/

/-- A number of digits between two bounds. -/
def isBetween (low high : Nat) (cs : List Char) : Bool :=
  match cs.mapM Text.digit? with
  | some digits =>
    let n := Text.ofDigits 10 digits
    decide (low ≤ n ∧ n ≤ high)
  | none => false

/-- Whether characters are a day of the calendar. -/
def isDate : List Char → Bool
  | [y₁, y₂, y₃, y₄, '-', m₁, m₂, '-', d₁, d₂] =>
    let value (cs : List Char) : Nat := Text.ofDigits 10 (cs.map Text.digitValue)
    isBetween 0 9999 [y₁, y₂, y₃, y₄] && isBetween 1 12 [m₁, m₂] &&
      isBetween 1 (Timestamp.daysInMonth (value [y₁, y₂, y₃, y₄]) (value [m₁, m₂])) [d₁, d₂]
  | _ => false

/-- Whether characters are the minutes of an hour, after a colon. -/
def isMinute : List Char → Bool
  | [':', a, b] => isBetween 0 59 [a, b]
  | _ => false

/-- Whether characters are an offset from universal time. -/
def isOffset : List Char → Bool
  | [c] => c == 'Z' || c == 'z'
  | sign :: a :: b :: minute =>
    (sign == '+' || sign == '-') && isBetween 0 23 [a, b] && isMinute minute
  | _ => false

/-- The characters after a time of day, if one stands at the start. A leap second counts. -/
def afterTime? : List Char → Option (List Char)
  | a :: b :: c :: d :: e :: ':' :: f :: g :: rest =>
    if isBetween 0 23 [a, b] && isMinute [c, d, e] && isBetween 0 60 [f, g] then
      match rest with
      | '.' :: digits =>
        if (digits.takeWhile Char.isDigit).isEmpty then none
        else some (digits.dropWhile Char.isDigit)
      | rest => some rest
    else none
  | _ => none

/-- Whether characters are a time of day, and an offset when one may follow. -/
def isTime (withOffset : Bool) (cs : List Char) : Bool :=
  match afterTime? cs with
  | some [] => true
  | some rest => withOffset && isOffset rest
  | none => false

/-- Whether characters are a date, a time, or a date and a time with a letter between them. -/
def isMoment (cs : List Char) : Bool :=
  isTime false cs || isDate cs ||
    match cs.drop 10 with
    | mark :: time => (mark == 'T' || mark == 't') && isDate (cs.take 10) && isTime true time
    | [] => false

/-! ## Reading -/

/-- The scalar that characters are. -/
def ofChars? (cs : List Char) : Option Scalar :=
  if cs = "true".toList then some (.bool true)
  else if cs = "false".toList then some (.bool false)
  else
    match integer? cs with
    | some i => some (.integer i)
    | none => if isDecimal cs then some .decimal else if isMoment cs then some .moment else none

/-- Reads a scalar. A blank and a time may follow a date. -/
def read (cs : List Char) : Option (Scalar × List Char) :=
  let word := cs.takeWhile isMember
  let rest := cs.dropWhile isMember
  let time := (rest.drop 1).takeWhile isMember
  if isDate word ∧ rest.head? = some ' ' ∧ !time.isEmpty then
    if isTime true time then some (.moment, (rest.drop 1).dropWhile isMember) else none
  else (ofChars? word).map (·, rest)

/-- The scalar as a document. -/
def document : Scalar → Document
  | .bool b => .bool b
  | .integer i =>
    match Number.ofInt? i with
    | some n => .number n
    | none => .unreadable
  | .decimal => .unreadable
  | .moment => .object [(some "$moment", .unreadable)] true

end Scalar

end Certification.Toml
