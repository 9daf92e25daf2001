import Certification.Number.Shortest
import Mathlib.Tactic.SplitIfs

/-!
# Rounding intervals

The reals that round to a magnitude form an interval, and the intervals of different magnitudes do
not meet: where two of them have an end in common, one of the significands is odd and its interval
leaves its ends out. So a decimal in the interval of a magnitude determines it, and the shortest
decimal lies in the interval.
-/

namespace Certification

/-- The magnitude of a decimal in quarters of the unit `2 ^ (-1074)`, over its denominator. -/
def Decimal.quarters (d : Decimal) : Nat := d.num * 2 ^ 1076

private theorem Decimal.den_pos (d : Decimal) : 0 < d.den := Nat.pow_pos (by decide)

namespace Binary64

/-- Lower end of the rounding interval in quarters of the unit. -/
def low (x : Binary64) : Nat := x.lowerQuarters * 2 ^ x.exponent

/-- Upper end of the rounding interval in quarters of the unit. -/
def high (x : Binary64) : Nat := x.upperQuarters * 2 ^ x.exponent

variable {x y : Binary64} {d : Decimal}

/-- A decimal determines a magnitude when it lies between the ends of its interval, which belong to
it when the significand is even. -/
theorem determinedBy_eq_true_iff :
    x.determinedBy d = true ↔
      if x.significand % 2 = 0 then x.low * d.den ≤ d.quarters ∧ d.quarters ≤ x.high * d.den
      else x.low * d.den < d.quarters ∧ d.quarters < x.high * d.den := by
  have hdef : x.determinedBy d =
      if x.significand % 2 = 0 then
        decide (x.low * d.den ≤ d.quarters) && decide (d.quarters ≤ x.high * d.den)
      else decide (x.low * d.den < d.quarters) && decide (d.quarters < x.high * d.den) := rfl
  rw [hdef]
  split_ifs
  · rw [Bool.and_eq_true, decide_eq_true_iff, decide_eq_true_iff]
  · rw [Bool.and_eq_true, decide_eq_true_iff, decide_eq_true_iff]

private theorem bounds_of_determinedBy (h : x.determinedBy d = true) :
    (x.low * d.den ≤ d.quarters ∧ d.quarters ≤ x.high * d.den) ∧
      (x.significand % 2 = 1 →
        x.low * d.den < d.quarters ∧ d.quarters < x.high * d.den) := by
  rw [determinedBy_eq_true_iff] at h
  split_ifs at h with heven
  · exact ⟨h, fun hodd ↦ by omega⟩
  · exact ⟨⟨Nat.le_of_lt h.1, Nat.le_of_lt h.2⟩, fun _ ↦ h⟩

/-! ### Intervals do not meet -/

/-- The magnitude of a number comes before that of another one: it has the less exponent, or the
less significand. -/
def Precedes (x y : Binary64) : Prop :=
  x.exponent < y.exponent ∨ x.exponent = y.exponent ∧ x.significand < y.significand

private theorem upperQuarters_le_of_lt (h : x.significand < y.significand) :
    x.upperQuarters < y.lowerQuarters ∨
      x.upperQuarters ≤ y.lowerQuarters ∧ (x.significand % 2 = 1 ∨ y.significand % 2 = 1) := by
  unfold upperQuarters lowerQuarters
  split_ifs <;> omega

private theorem upperQuarters_le_of_exponent_lt (h : x.exponent < y.exponent) :
    x.upperQuarters < 2 * y.lowerQuarters ∨
      x.upperQuarters ≤ 2 * y.lowerQuarters ∧ x.significand % 2 = 1 := by
  obtain ⟨hx, -, -⟩ := x.normal
  obtain ⟨-, hy, -⟩ := y.normal
  unfold upperQuarters lowerQuarters
  split_ifs <;> omega

/-- The interval of a magnitude ends before that of a later one begins, or there at the latest if
one of them leaves its ends out. -/
theorem Precedes.high_le_low (h : x.Precedes y) :
    x.high < y.low ∨ x.high ≤ y.low ∧ (x.significand % 2 = 1 ∨ y.significand % 2 = 1) := by
  have hpos : 0 < 2 ^ x.exponent := Nat.two_pow_pos _
  unfold high low
  rcases h with hlt | ⟨heq, hlt⟩
  · have htwice : 2 * y.lowerQuarters * 2 ^ x.exponent ≤ y.lowerQuarters * 2 ^ y.exponent :=
      calc 2 * y.lowerQuarters * 2 ^ x.exponent
          = y.lowerQuarters * 2 ^ (x.exponent + 1) := by
            rw [Nat.pow_succ, Nat.mul_comm 2, Nat.mul_assoc, Nat.mul_comm 2]
        _ ≤ y.lowerQuarters * 2 ^ y.exponent :=
            Nat.mul_le_mul_left _ (Nat.pow_le_pow_right (by decide) hlt)
    rcases upperQuarters_le_of_exponent_lt hlt with h | ⟨h, hodd⟩
    · exact .inl (Nat.lt_of_lt_of_le (Nat.mul_lt_mul_of_pos_right h hpos) htwice)
    · exact .inr ⟨Nat.le_trans (Nat.mul_le_mul_right _ h) htwice, .inl hodd⟩
  · rw [← heq]
    rcases upperQuarters_le_of_lt hlt with h | ⟨h, hodd⟩
    · exact .inl (Nat.mul_lt_mul_of_pos_right h hpos)
    · exact .inr ⟨Nat.mul_le_mul_right _ h, hodd⟩

/-- No decimal lies in the intervals of two magnitudes one of which comes before the other. -/
theorem Precedes.not_determinedBy (h : x.Precedes y) (hx : x.determinedBy d = true) :
    y.determinedBy d ≠ true := by
  intro hy
  obtain ⟨⟨-, hupper⟩, hupper'⟩ := bounds_of_determinedBy hx
  obtain ⟨⟨hlower, -⟩, hlower'⟩ := bounds_of_determinedBy hy
  have hmeet {point : Nat} (hl : y.low * d.den ≤ point) (hu : point ≤ x.high * d.den) :
      y.low ≤ x.high := Nat.le_of_mul_le_mul_right (Nat.le_trans hl hu) d.den_pos
  have hcross {point : Nat} (hlu : y.low * d.den < point ∧ point ≤ x.high * d.den ∨
      y.low * d.den ≤ point ∧ point < x.high * d.den) : y.low < x.high :=
    Nat.lt_of_mul_lt_mul_right (a := d.den) (by omega)
  rcases h.high_le_low with hlt | ⟨hle, hodd | hodd⟩
  · exact absurd (hmeet hlower hupper) (Nat.not_le.mpr hlt)
  · exact absurd (hcross (.inr ⟨hlower, (hupper' hodd).2⟩)) (Nat.not_lt.mpr hle)
  · exact absurd (hcross (.inl ⟨(hlower' hodd).1, hupper⟩)) (Nat.not_lt.mpr hle)

/-- A decimal determines the significand and the exponent of a magnitude in whose interval it
lies. -/
theorem eq_of_determinedBy (hx : x.determinedBy d = true) (hy : y.determinedBy d = true) :
    x.significand = y.significand ∧ x.exponent = y.exponent := by
  have hxy : ¬ x.Precedes y := fun h ↦ h.not_determinedBy hx hy
  have hyx : ¬ y.Precedes x := fun h ↦ h.not_determinedBy hy hx
  unfold Precedes at hxy hyx
  omega

/-! ### The shortest decimal -/

/-- The magnitude lies in its interval, apart from the ends unless it is zero. -/
theorem low_le_magnitude (x : Binary64) :
    (x.low ≤ 4 * x.magnitude ∧ 4 * x.magnitude ≤ x.high) ∧
      (x.significand % 2 = 1 → x.low < 4 * x.magnitude ∧ 4 * x.magnitude < x.high) := by
  have hpos : 0 < 2 ^ x.exponent := Nat.two_pow_pos _
  have hquarters : 4 * x.magnitude = 4 * x.significand * 2 ^ x.exponent := by
    rw [magnitude, Nat.mul_assoc]
  have hlower : x.lowerQuarters ≤ 4 * x.significand ∧
      (x.significand % 2 = 1 → x.lowerQuarters < 4 * x.significand) := by
    unfold lowerQuarters
    split_ifs <;> omega
  have hupper : 4 * x.significand < x.upperQuarters := by
    unfold upperQuarters
    omega
  rw [hquarters, low, high]
  refine ⟨⟨Nat.mul_le_mul_right _ hlower.1, Nat.mul_le_mul_right _ (Nat.le_of_lt hupper)⟩,
    fun hodd ↦ ⟨?_, Nat.mul_lt_mul_of_pos_right hupper hpos⟩⟩
  exact Nat.mul_lt_mul_of_pos_right (hlower.2 hodd) hpos

private theorem num_mul_eq_mul_den (m n k : Nat) (hk : k = n + 2) :
    (⟨m * 5 ^ n, -(n : Int)⟩ : Decimal).num * 2 ^ k =
      4 * m * (⟨m * 5 ^ n, -(n : Int)⟩ : Decimal).den := by
  have hnum : (-(n : Int)).toNat = 0 := by omega
  have hden : (-(-(n : Int))).toNat = n := by omega
  have hpowers : 5 ^ n * 2 ^ k = 4 * 10 ^ n := by
    rw [hk, Nat.pow_add, ← Nat.mul_assoc, ← Nat.mul_pow, Nat.mul_comm]
  simp only [Decimal.num, Decimal.den, hnum, hden, Nat.pow_zero, Nat.mul_one]
  rw [Nat.mul_assoc, hpowers, ← Nat.mul_assoc, Nat.mul_comm m]

private theorem quarters_exactDecimal (x : Binary64) :
    x.exactDecimal.quarters = 4 * x.magnitude * x.exactDecimal.den :=
  num_mul_eq_mul_den x.magnitude 1074 1076 rfl

/-- The exact decimal of a magnitude determines it. -/
theorem determinedBy_exactDecimal (x : Binary64) : x.determinedBy x.exactDecimal = true := by
  obtain ⟨⟨hlow, hhigh⟩, hodd⟩ := x.low_le_magnitude
  have hden := x.exactDecimal.den_pos
  rw [determinedBy_eq_true_iff, quarters_exactDecimal]
  split_ifs with heven
  · exact ⟨Nat.mul_le_mul_right _ hlow, Nat.mul_le_mul_right _ hhigh⟩
  · obtain ⟨hlow, hhigh⟩ := hodd (by omega)
    exact ⟨Nat.mul_lt_mul_of_pos_right hlow hden, Nat.mul_lt_mul_of_pos_right hhigh hden⟩

section Search

-- Whoever looks into the neighbours starts to compute `2 ^ 1074`.
attribute [local irreducible] neighbours

private theorem searchFrom_succ (x : Binary64) (lead : Int) (fuel count : Nat) :
    x.searchFrom lead (fuel + 1) count =
      match (x.neighbours (lead + 1 - count)).find? x.determinedBy with
      | some d => some d
      | none => x.searchFrom lead fuel (count + 1) := rfl

end Search

/-- What the search finds determines the magnitude. -/
theorem determinedBy_of_searchFrom {lead : Int} {fuel count : Nat}
    (h : x.searchFrom lead fuel count = some d) : x.determinedBy d = true := by
  induction fuel generalizing count with
  | zero => cases h
  | succ fuel ih =>
    rw [searchFrom_succ] at h
    cases hfound : (x.neighbours (lead + 1 - count)).find? x.determinedBy with
    | none =>
      rw [hfound] at h
      exact ih h
    | some found =>
      rw [hfound] at h
      obtain rfl : found = d := Option.some.inj h
      exact List.find?_some hfound

/-- The shortest decimal determines the magnitude. -/
theorem determinedBy_shortest (x : Binary64) : x.determinedBy x.shortest = true := by
  unfold shortest
  cases hfound : x.searchFrom x.leadingExponent 17 1 with
  | none => exact x.determinedBy_exactDecimal
  | some d => exact determinedBy_of_searchFrom hfound

end Binary64

end Certification
