import Certification.Json.Basic
import Certification.Number.Shortest

/-!
# Writing JSON text

The compact form of a value, without any separator, and the indented form, with two spaces for each
level. Both escape only what JSON requires: the quote, the backslash and the control characters,
five of which have short escapes. A binary64 number is written with the fewest digits that determine
it, positionally when its leading digit stands between `10 ^ (-5)` and `10 ^ 15`, and always so that
it reads as a binary64 number again.
-/

namespace Certification

namespace Decimal

/-- Moves the zeros at the end of the digits into the exponent. -/
def dropZeros (d : Decimal) : Decimal :=
  if h : d.digits ≠ 0 ∧ d.digits % 10 = 0 then dropZeros ⟨d.digits / 10, d.exponent + 1⟩ else d
termination_by d.digits
decreasing_by omega

/-- A run of zeros. -/
def zeros (n : Nat) : List Char := List.replicate n '0'

/-- Text of a decimal magnitude. -/
def write (d : Decimal) : List Char :=
  let ds := Nat.toDigits 10 d.digits
  let count : Int := ds.length
  let lead := d.exponent + count - 1
  if -5 ≤ lead ∧ lead < 16 then
    if 0 ≤ d.exponent then ds ++ zeros d.exponent.toNat ++ ['.', '0']
    else if 0 ≤ lead then
      ds.take (lead.toNat + 1) ++ '.' :: ds.drop (lead.toNat + 1)
    else '0' :: '.' :: zeros (-lead - 1).toNat ++ ds
  else
    let fraction := match ds with
      | first :: second :: more => first :: '.' :: second :: more
      | ds => ds
    let sign := if lead < 0 then '-' else '+'
    fraction ++ 'e' :: sign :: Nat.toDigits 10 lead.natAbs

end Decimal

/-- Text of a binary64 number. -/
def Binary64.write (x : Binary64) : List Char :=
  let magnitude := if x.isZero then ['0', '.', '0'] else x.shortest.dropZeros.write
  if x.negative then '-' :: magnitude else magnitude

/-- Text of a number. -/
def Number.write : Number → List Char
  | .natural n => Nat.toDigits 10 n.val
  | .negative n => '-' :: Nat.toDigits 10 (n.val + 1)
  | .double x => x.write

namespace Json

/-- Lower-case hexadecimal digit. -/
def hexDigit (n : Nat) : Char := Nat.digitChar n

/-- Written form of one character inside a string. -/
def escapeChar (c : Char) : List Char :=
  if c = '"' then ['\\', '"']
  else if c = '\\' then ['\\', '\\']
  else if c = '\x08' then ['\\', 'b']
  else if c = '\x0C' then ['\\', 'f']
  else if c = '\n' then ['\\', 'n']
  else if c = '\r' then ['\\', 'r']
  else if c = '\t' then ['\\', 't']
  else if c.toNat < 0x20 then
    ['\\', 'u', '0', '0', hexDigit (c.toNat / 16), hexDigit (c.toNat % 16)]
  else [c]

/-- Written form of a string. -/
def writeString (s : String) : List Char :=
  '"' :: s.toList.flatMap escapeChar ++ ['"']

mutual

/-- Compact form of a value. -/
def write : Json → List Char
  | .null => ['n', 'u', 'l', 'l']
  | .bool true => ['t', 'r', 'u', 'e']
  | .bool false => ['f', 'a', 'l', 's', 'e']
  | .number n => n.write
  | .string s => writeString s
  | .array [] => ['[', ']']
  | .array (item :: items) => '[' :: write item ++ writeItems items ++ [']']
  | .object [] => ['{', '}']
  | .object ((key, value) :: entries) =>
    '{' :: writeString key ++ ':' :: write value ++ writeEntries entries ++ ['}']

/-- Compact form of the items after the first. -/
def writeItems : List Json → List Char
  | [] => []
  | item :: items => ',' :: write item ++ writeItems items

/-- Compact form of the entries after the first. -/
def writeEntries : List (String × Json) → List Char
  | [] => []
  | (key, value) :: entries =>
    ',' :: writeString key ++ ':' :: write value ++ writeEntries entries

end

/-- Compact text of a value (`to_string`). -/
def compact (j : Json) : String := String.ofList j.write

/-- A new line and two spaces for each level. -/
def newLine (level : Nat) : List Char := '\n' :: List.replicate (2 * level) ' '

mutual

/-- Indented form of a value at a level. -/
def writeIndented (level : Nat) : Json → List Char
  | .array (item :: items) =>
    '[' :: newLine (level + 1) ++ writeIndented (level + 1) item ++
      writeIndentedItems (level + 1) items ++ newLine level ++ [']']
  | .object ((key, value) :: entries) =>
    '{' :: newLine (level + 1) ++ writeString key ++ ':' :: ' ' ::
      writeIndented (level + 1) value ++ writeIndentedEntries (level + 1) entries ++
      newLine level ++ ['}']
  | .array [] => ['[', ']']
  | .object [] => ['{', '}']
  | .null => ['n', 'u', 'l', 'l']
  | .bool true => ['t', 'r', 'u', 'e']
  | .bool false => ['f', 'a', 'l', 's', 'e']
  | .number n => n.write
  | .string s => writeString s

/-- Indented form of the items after the first. -/
def writeIndentedItems (level : Nat) : List Json → List Char
  | [] => []
  | item :: items =>
    ',' :: newLine level ++ writeIndented level item ++ writeIndentedItems level items

/-- Indented form of the entries after the first. -/
def writeIndentedEntries (level : Nat) : List (String × Json) → List Char
  | [] => []
  | (key, value) :: entries =>
    ',' :: newLine level ++ writeString key ++ ':' :: ' ' :: writeIndented level value ++
      writeIndentedEntries level entries

end

/-- Indented text of a value (`to_string_pretty`). -/
def indented (j : Json) : String := String.ofList (writeIndented 0 j)

end Json

end Certification
