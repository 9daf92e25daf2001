import Certification.Number.Binary64

/-!
# Shortest decimals

The fewest decimal digits that determine a binary64 number. The reals that round to a number form an
interval around it, ends included exactly when its significand is even; a decimal determines the
number when it lies in that interval. For one digit, then two, and so on to seventeen, the two
neighbours of the number on that decimal grid are tried: the first grid with a hit wins, of two hits
the nearer, and of two equally near the even one.
-/

namespace Certification

/-- A decimal magnitude `digits * 10 ^ exponent`. -/
structure Decimal where
  digits : Nat
  exponent : Int
  deriving DecidableEq, Repr

namespace Decimal

/-- Numerator of the magnitude over the denominator `den`. -/
def num (d : Decimal) : Nat := d.digits * 10 ^ d.exponent.toNat

/-- Denominator that goes with `num`. -/
def den (d : Decimal) : Nat := 10 ^ (-d.exponent).toNat

end Decimal

namespace Binary64

/-- Lower end of the rounding interval in quarters of a unit in the last place: the gap below a
number whose significand is the least with 53 bits is half as wide. -/
def lowerQuarters (x : Binary64) : Nat :=
  if x.significand = 2 ^ 52 ∧ x.exponent ≠ 0 then 4 * x.significand - 1 else 4 * x.significand - 2

/-- Upper end of the rounding interval in quarters of a unit in the last place. -/
def upperQuarters (x : Binary64) : Nat := 4 * x.significand + 2

/-- Whether a decimal lies in the interval of reals that round to the magnitude of `x`. -/
def determinedBy (x : Binary64) (d : Decimal) : Bool :=
  let scale := 2 ^ 1076
  let low := x.lowerQuarters * 2 ^ x.exponent * d.den
  let high := x.upperQuarters * 2 ^ x.exponent * d.den
  let point := d.num * scale
  if x.significand % 2 = 0 then low ≤ point && point ≤ high else low < point && point < high

/-- Decimal exponent of the leading digit: the greatest `k` with `10 ^ k` at most the magnitude,
found from an estimate that is at most one too small. -/
def leadingExponent (x : Binary64) : Int :=
  let n := x.magnitude
  let estimate : Int := ((n.log2 : Int) - 1074) * 30103 / 100000 - 1
  let atLeast (k : Int) : Bool := 10 ^ k.toNat * 2 ^ 1074 ≤ n * 10 ^ (-k).toNat
  if atLeast (estimate + 2) then estimate + 2
  else if atLeast (estimate + 1) then estimate + 1
  else estimate

/-- The neighbours of the magnitude on the grid of multiples of `10 ^ step`, the nearer first and
of two equally near the even first. -/
def neighbours (x : Binary64) (step : Int) : List Decimal :=
  let n := x.magnitude * 10 ^ (-step).toNat
  let d := 2 ^ 1074 * 10 ^ step.toNat
  let q := n / d
  let r := n % d
  let below : Decimal := ⟨q, step⟩
  let above : Decimal := ⟨q + 1, step⟩
  if 2 * r < d ∨ (2 * r = d ∧ q % 2 = 0) then [below, above] else [above, below]

/-- The magnitude itself as a decimal, with as many digits as it takes. -/
def exactDecimal (x : Binary64) : Decimal := ⟨x.magnitude * 5 ^ 1074, -1074⟩

/-- First grid, from `count` digits on, with a neighbour that determines the number. -/
def searchFrom (x : Binary64) (lead : Int) : Nat → Nat → Option Decimal
  | 0, _ => none
  | fuel + 1, count =>
    match (x.neighbours (lead + 1 - count)).find? x.determinedBy with
    | some d => some d
    | none => searchFrom x lead fuel (count + 1)

/-- The shortest decimal that determines the magnitude of `x`, nearest to it among those. -/
def shortest (x : Binary64) : Decimal :=
  (x.searchFrom x.leadingExponent 17 1).getD x.exactDecimal

end Binary64

end Certification
