import Certification.Text.CaseTable
import Certification.Text.PrintableTable

/-!
# Quoted text

The quoted form of a text inside a message: double quotes around it, a backslash before a double
quote and a backslash, short escapes for NUL, tab, line feed and carriage return, and the code point
in braces for everything that is not shown as it stands or that would attach to the character before
it.
-/

namespace Certification.Text

/-- Lower-case hexadecimal digits of a number, without leading zeros. -/
def hexDigits (n : Nat) : List Char := Nat.toDigits 16 n

/-- Quoted form of one character. -/
def quoteChar (c : Char) : List Char :=
  if c = '\x00' then ['\\', '0']
  else if c = '\t' then ['\\', 't']
  else if c = '\n' then ['\\', 'n']
  else if c = '\r' then ['\\', 'r']
  else if c = '"' then ['\\', '"']
  else if c = '\\' then ['\\', '\\']
  else if 0x20 ≤ c.toNat ∧ c.toNat < 0x7F then [c]
  else if inRanges graphemeExtendRanges c.toNat || inRanges unprintableRanges c.toNat then
    ['\\', 'u', '{'] ++ hexDigits c.toNat ++ ['}']
  else [c]

/-- Quoted form of a text. -/
def quoted (s : String) : String :=
  String.ofList ('"' :: s.toList.flatMap quoteChar ++ ['"'])

end Certification.Text
