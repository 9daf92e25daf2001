/-!
# Binary64 numbers

Finite binary64 numbers as exact integers, with the rounding that reads, multiplies and divides
them. A number is a sign and a magnitude `significand * 2 ^ exponent`, counted in units of
`2 ^ (-1074)`, the least positive magnitude; so every comparison is a comparison of integers and no
machine arithmetic is involved. The significand and exponent are normalised, which makes equality of
the representation equality of the sign and the magnitude.
-/

-- Powers of integers are core's, also in modules that see the powers of other monoids.
attribute [instance (20000), default_instance 20000] instPowNat

namespace Certification

/-- A finite binary64 number: `± significand * 2 ^ exponent` units of `2 ^ (-1074)`. -/
structure Binary64 where
  negative : Bool
  significand : Nat
  exponent : Nat
  /-- At most 53 bits, all of them used above the least exponent, and a finite exponent. -/
  normal : significand < 2 ^ 53 ∧ (exponent = 0 ∨ 2 ^ 52 ≤ significand) ∧ exponent ≤ 2045
  deriving DecidableEq

namespace Binary64

/-- Nearest natural number to `n / d`; of two equally near ones, the even one. -/
def roundDiv (n d : Nat) : Nat :=
  let q := n / d
  let r := n % d
  if 2 * r < d ∨ (2 * r = d ∧ q % 2 = 0) then q else q + 1

/-- Magnitude in units of `2 ^ (-1074)`. -/
def magnitude (x : Binary64) : Nat := x.significand * 2 ^ x.exponent

/-- Value in units of `2 ^ (-1074)`. -/
def units (x : Binary64) : Int :=
  if x.negative then -(x.magnitude : Int) else x.magnitude

/-- Zero with a sign. -/
def zero (negative : Bool) : Binary64 := ⟨negative, 0, 0, by decide⟩

/-- The number with the other sign. -/
def neg (x : Binary64) : Binary64 := { x with negative := !x.negative }

/-- Whether the magnitude is zero. -/
def isZero (x : Binary64) : Bool := x.significand == 0

/-- Exponent at which `q` units keep 53 bits. -/
def exponentFor (q : Nat) : Nat := if q < 2 ^ 53 then 0 else q.log2 - 52

/-- Nearest number to `n / d` units, ties to the even significand; `none` when its magnitude would
exceed the largest finite one. -/
def round? (negative : Bool) (n d : Nat) : Option Binary64 :=
  let e := exponentFor (n / d)
  let m := roundDiv n (d * 2 ^ e)
  if h : m < 2 ^ 53 ∧ (e = 0 ∨ 2 ^ 52 ≤ m) ∧ e ≤ 2045 then some ⟨negative, m, e, h⟩
  else if h : m = 2 ^ 53 ∧ e + 1 ≤ 2045 then some ⟨negative, 2 ^ 52, e + 1, by omega⟩
  else none

/-- Nearest number to a natural number. -/
def ofNat? (n : Nat) : Option Binary64 := round? false (n * 2 ^ 1074) 1

/-- Nearest number to an integer. -/
def ofInt? (n : Int) : Option Binary64 := round? (decide (n < 0)) (n.natAbs * 2 ^ 1074) 1

/-- Rounded product. -/
def mul? (x y : Binary64) : Option Binary64 :=
  round? (x.negative != y.negative) (x.magnitude * y.magnitude) (2 ^ 1074)

/-- Rounded quotient; `none` when the divisor is zero. -/
def div? (x y : Binary64) : Option Binary64 :=
  if y.isZero then none
  else round? (x.negative != y.negative) (x.magnitude * 2 ^ 1074) y.magnitude

/-- Rounded power of ten. -/
def tenPower? (k : Nat) : Option Binary64 := ofNat? (10 ^ k)

/-- A decimal `significand * 10 ^ exponent`, read in two roundings: the significand and a power of
ten are rounded, then their product or quotient. Below the least power of ten the division is done
in two steps, and a decimal that two steps cannot reach is zero; above the greatest, only zero is
in range. -/
def ofDecimal? (significand : Nat) (exponent : Int) : Option Binary64 := do
  let base ← ofNat? significand
  if 308 < exponent then
    if base.isZero then some base else none
  else if 0 ≤ exponent then
    mul? base (← tenPower? exponent.toNat)
  else if -308 ≤ exponent then
    div? base (← tenPower? (-exponent).toNat)
  else if -616 ≤ exponent then
    let first ← div? base (← tenPower? 308)
    div? first (← tenPower? (-(exponent + 308)).toNat)
  else some (zero false)

/-- Strict order of the values; the two zeros are equal. -/
def lt (x y : Binary64) : Bool := decide (x.units < y.units)

/-- Equality of the values; the two zeros are equal. -/
def sameValue (x y : Binary64) : Bool := decide (x.units = y.units)

/-- Whole part, clamped to the range from zero to `bound`. -/
def clampTo (bound : Nat) (x : Binary64) : Nat :=
  if x.negative then 0 else min (x.magnitude / 2 ^ 1074) bound

end Binary64

end Certification
