import Certification.Json.Document
import Certification.Text.Blank
import Certification.Text.Digit
import Certification.Text.Utf8

/-!
# Reading JSON text

From characters to documents. The reader is strict: four separators, no leading zeros, no trailing
comma, no control character inside a string. It never fails as a whole; where the text stops being
JSON the document says so and the rest of the text is dropped.

A number without fraction and exponent is an integer as long as it fits 64 bits; `-0` and everything
else is a binary64 number, made from the digits that fit 64 bits and the power of ten they leave.
-/

namespace Certification.Document

open Certification.Text

/-! ## Strings -/

/-- A character of a string, or one half of a surrogate pair or another code unit written in
hexadecimal. -/
inductive Piece where
  | char (c : Char)
  | unit (n : Nat)
  deriving DecidableEq, Repr

/-- Value of four hexadecimal digits. -/
def codeUnit? (a b c d : Char) : Option Nat := do
  let a ← hexDigit? a
  let b ← hexDigit? b
  let c ← hexDigit? c
  let d ← hexDigit? d
  some (((a * 16 + b) * 16 + c) * 16 + d)

/-- Character that follows a backslash, for the escapes of one character. -/
def shortEscape? (c : Char) : Option Char :=
  if c = '"' then some '"'
  else if c = '\\' then some '\\'
  else if c = '/' then some '/'
  else if c = 'b' then some '\x08'
  else if c = 'f' then some '\x0C'
  else if c = 'n' then some '\n'
  else if c = 'r' then some '\r'
  else if c = 't' then some '\t'
  else none

/-- Reads a string after its opening quote up to its closing one. -/
def scanString : List Char → Option (List Piece × List Char)
  | [] => none
  | '"' :: rest => some ([], rest)
  | '\\' :: 'u' :: a :: b :: c :: d :: rest => do
    let n ← codeUnit? a b c d
    let r ← scanString rest
    some (.unit n :: r.1, r.2)
  | '\\' :: e :: rest => do
    let c ← shortEscape? e
    let r ← scanString rest
    some (.char c :: r.1, r.2)
  | c :: rest => do
    if c.toNat < 0x20 then none
    else
      let r ← scanString rest
      some (.char c :: r.1, r.2)

/-- First halves of surrogate pairs. -/
def isHighSurrogate (n : Nat) : Bool := 0xD800 ≤ n && n ≤ 0xDBFF

/-- Second halves of surrogate pairs. -/
def isLowSurrogate (n : Nat) : Bool := 0xDC00 ≤ n && n ≤ 0xDFFF

/-- Joins surrogate pairs, given a first half that waits for its second; a half alone has no
value. -/
def joinPieces : Option Nat → List Piece → Option (List Char)
  | none, [] => some []
  | some _, [] => none
  | none, .char c :: rest => (joinPieces none rest).map (c :: ·)
  | some _, .char _ :: _ => none
  | none, .unit n :: rest =>
    if isHighSurrogate n then joinPieces (some n) rest
    else if isLowSurrogate n then none
    else (joinPieces none rest).map (Char.ofNat n :: ·)
  | some high, .unit n :: rest =>
    if isLowSurrogate n then
      (joinPieces none rest).map
        (Char.ofNat (0x10000 + (high - 0xD800) * 0x400 + (n - 0xDC00)) :: ·)
    else none

/-- The text of a scanned string. -/
def textOf? (pieces : List Piece) : Option String := (joinPieces none pieces).map String.ofList

/-- Reads a string after its opening quote. -/
def readString (cs : List Char) : Document × List Char :=
  match scanString cs with
  | none => (.broken, [])
  | some (pieces, rest) =>
    match textOf? pieces with
    | some s => (.string s, rest)
    | none => (.unreadable, rest)

/-! ## Numbers -/

/-- Digits read so far: the ones that fit 64 bits, and the power of ten that goes with them. -/
structure Digits where
  significand : Nat
  exponent : Int
  /-- Whether a digit before the point was left out. -/
  full : Bool
  deriving DecidableEq, Repr

/-- Adds a digit before the point; from the first one that does not fit on, digits only count. -/
def Digits.addWhole (d : Digits) (c : Char) : Digits :=
  let next := d.significand * 10 + digitValue c
  if d.full || 2 ^ 64 ≤ next then { d with exponent := d.exponent + 1, full := true }
  else { d with significand := next }

/-- Adds the digits after the point, up to the first one that does not fit. -/
def Digits.addFraction : Digits → List Char → Digits
  | d, [] => d
  | d, c :: cs =>
    let next := d.significand * 10 + digitValue c
    if 2 ^ 64 ≤ next then d
    else addFraction { d with significand := next, exponent := d.exponent - 1 } cs

/-- The number with a sign, digits and an exponent; `none` when it is out of range. -/
def doubleOf? (negative : Bool) (d : Digits) (exponent : Int) : Option Number :=
  (Binary64.ofDecimal? d.significand (d.exponent + exponent)).map fun x ↦
    .double (if negative then x.neg else x)

/-- The number with a sign and digits only. -/
def integerOf? (negative : Bool) (d : Digits) : Option Number :=
  if d.full then doubleOf? negative d 0
  else if negative then
    if h : 0 < d.significand ∧ d.significand ≤ 2 ^ 63 then
      some (.negative ⟨d.significand - 1, by omega⟩)
    else doubleOf? true d 0
  else Number.ofNat? d.significand

/-- Reads an exponent after its letter: its value and the rest, if a digit follows. -/
def readExponent (cs : List Char) : Option (Int × List Char) :=
  let signed (negative : Bool) (cs : List Char) : Option (Int × List Char) :=
    let digits := cs.takeWhile Char.isDigit
    if digits.isEmpty then none
    else
      let n : Int := Nat.ofDigitChars 10 digits 0
      some (if negative then -n else n, cs.dropWhile Char.isDigit)
  match cs with
  | '+' :: rest => signed false rest
  | '-' :: rest => signed true rest
  | _ => signed false cs

/-- The document of a number that may be out of range. -/
def ofNumber? : Option Number → Document
  | some n => .number n
  | none => .unreadable

/-- Reads what follows the digits before the point and after it. -/
def readTail (negative : Bool) (d : Digits) (hasFraction : Bool) (cs : List Char) :
    Document × List Char :=
  let exponent (rest : List Char) : Document × List Char :=
    match readExponent rest with
    | none => (.broken, [])
    | some (e, rest) => (ofNumber? (doubleOf? negative d e), rest)
  match cs with
  | 'e' :: rest => exponent rest
  | 'E' :: rest => exponent rest
  | _ =>
    (ofNumber? (if hasFraction then doubleOf? negative d 0 else integerOf? negative d), cs)

/-- Reads a number after its sign. -/
def readMagnitude (negative : Bool) (cs : List Char) : Document × List Char :=
  let whole := cs.takeWhile Char.isDigit
  let rest := cs.dropWhile Char.isDigit
  if whole.isEmpty || (whole.head? == some '0' && 1 < whole.length) then (.broken, [])
  else
    let d := whole.foldl Digits.addWhole ⟨0, 0, false⟩
    match rest with
    | '.' :: rest =>
      let fraction := rest.takeWhile Char.isDigit
      if fraction.isEmpty then (.broken, [])
      else readTail negative (d.addFraction fraction) true (rest.dropWhile Char.isDigit)
    | _ => readTail negative d false rest

/-- Reads a number. -/
def readNumber : List Char → Document × List Char
  | '-' :: rest => readMagnitude true rest
  | cs => readMagnitude false cs

/-! ## Values -/

mutual

/-- Reads a value at a level of nesting: the document and the rest of the text. -/
def readValue : Nat → Nat → List Char → Document × List Char
  | 0, _, _ => (.broken, [])
  | fuel + 1, level, cs =>
    match cs.dropWhile isSeparator with
    | '"' :: rest => readString rest
    | '[' :: rest =>
      let r := readItems fuel (level + 1) true rest
      (placedAt (level + 1) (.array r.1 r.2.1), r.2.2)
    | '{' :: rest =>
      let r := readEntries fuel (level + 1) true rest
      (placedAt (level + 1) (.object r.1 r.2.1), r.2.2)
    | 'n' :: 'u' :: 'l' :: 'l' :: rest => (.null, rest)
    | 't' :: 'r' :: 'u' :: 'e' :: rest => (.bool true, rest)
    | 'f' :: 'a' :: 'l' :: 's' :: 'e' :: rest => (.bool false, rest)
    | c :: rest => if c = '-' ∨ c.isDigit then readNumber (c :: rest) else (.broken, [])
    | [] => (.broken, [])

/-- Reads the items of an array, from the first one or after a comma: the items, whether the
array is closed, and the rest. -/
def readItems : Nat → Nat → Bool → List Char → List Document × Bool × List Char
  | 0, _, _, _ => ([], false, [])
  | fuel + 1, level, isFirst, cs =>
    match cs.dropWhile isSeparator with
    | ']' :: rest => if isFirst then ([], true, rest) else ([], false, [])
    | cs =>
      let item := readValue fuel level cs
      match item.2.dropWhile isSeparator with
      | ',' :: rest =>
        let more := readItems fuel level false rest
        (item.1 :: more.1, more.2)
      | ']' :: rest => ([item.1], true, rest)
      | _ => ([item.1], false, [])

/-- Reads the entries of an object, from the first one or after a comma: the entries, whether the
object is closed, and the rest. -/
def readEntries :
    Nat → Nat → Bool → List Char → List (Option String × Document) × Bool × List Char
  | 0, _, _, _ => ([], false, [])
  | fuel + 1, level, isFirst, cs =>
    match cs.dropWhile isSeparator with
    | '}' :: rest => if isFirst then ([], true, rest) else ([], false, [])
    | '"' :: rest =>
      match scanString rest with
      | none => ([], false, [])
      | some (pieces, rest) =>
        let key := textOf? pieces
        match rest.dropWhile isSeparator with
        | ':' :: rest =>
          let value := readValue fuel level rest
          match value.2.dropWhile isSeparator with
          | ',' :: rest =>
            let more := readEntries fuel level false rest
            ((key, value.1) :: more.1, more.2)
          | '}' :: rest => ([(key, value.1)], true, rest)
          | _ => ([(key, value.1)], false, [])
        | _ => ([(key, .broken)], false, [])
    | cs => ([(none, .misplaced (readValue fuel level cs).1)], false, [])

end

/-- Fuel that reading a text of some length cannot use up. -/
def fuelFor (cs : List Char) : Nat := 2 * cs.length + 2

/-- Reads the first value of a text: its document and the rest of the text. -/
def readFirst (cs : List Char) : Document × List Char := readValue (fuelFor cs) 0 cs

end Certification.Document

namespace Certification

/-- A whole text that was read as one document: the document of its first value, and whether only
separators follow it. -/
structure Reading where
  document : Document
  ended : Bool

namespace Reading

open Certification.Text

/-- Reads characters. -/
def ofChars (cs : List Char) : Reading :=
  let r := Document.readFirst cs
  ⟨r.1, r.2.all isSeparator⟩

/-- Reads a text. -/
def ofText (s : String) : Reading := ofChars s.toList

/-- Reads bytes: the text they decode to, which stops being JSON at the first byte that belongs
to no character. -/
def ofBytes (bytes : List UInt8) : Reading :=
  match Utf8.decodeUntilGap bytes with
  | (cs, gap) => ofChars (if gap then cs ++ ['\x00'] else cs)

/-- The value of a text, if it is JSON and nothing else. -/
def toJson? (r : Reading) : Option Json :=
  if r.ended then r.document.toJson? else none

end Reading

end Certification
