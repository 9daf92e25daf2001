/-!
# Digits

Values of decimal and hexadecimal digits.
-/

namespace Certification.Text

/-- Value of a decimal digit. -/
def digitValue (c : Char) : Nat := c.toNat - '0'.toNat

/-- Value of a character, if it is a decimal digit. -/
def digit? (c : Char) : Option Nat := if c.isDigit then some (digitValue c) else none

/-- Value of a character, if it is a hexadecimal digit. -/
def hexDigit? (c : Char) : Option Nat :=
  if '0' ≤ c ∧ c ≤ '9' then some (digitValue c)
  else if 'a' ≤ c ∧ c ≤ 'f' then some (c.toNat - 'a'.toNat + 10)
  else if 'A' ≤ c ∧ c ≤ 'F' then some (c.toNat - 'A'.toNat + 10)
  else none

/-- Number that is written with digits of a base, the first one first. -/
def ofDigits (base : Nat) (digits : List Nat) : Nat :=
  digits.foldl (fun n digit ↦ n * base + digit) 0

end Certification.Text
