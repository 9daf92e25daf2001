import Certification.Json.Basic

/-!
# Rounding succeeds

A quotient has no nearest binary64 number only when it is too large for one. The significand that is
kept has 53 bits, or is the power of two after them when it is rounded up, and the exponent grows
with the logarithm; so every quotient below `2 ^ 2097` units is rounded to a number, and so is every
number of a JSON value.
-/

namespace Certification

namespace Binary64

/-- A quotient is rounded to its whole part or to the next number. -/
theorem roundDiv_bounds (n d : Nat) : n / d ≤ roundDiv n d ∧ roundDiv n d ≤ n / d + 1 := by
  simp only [roundDiv]
  split <;> omega

/-- A number keeps at most 53 bits at its exponent, and all of them above the least exponent. -/
theorem div_exponentFor_bounds (q : Nat) :
    q / 2 ^ exponentFor q < 2 ^ 53 ∧
      (exponentFor q = 0 ∨ 2 ^ 52 ≤ q / 2 ^ exponentFor q) := by
  unfold exponentFor
  split
  · next h => exact ⟨by simpa using h, .inl rfl⟩
  · next h =>
    have hq : q ≠ 0 := by
      rintro rfl
      exact h (Nat.two_pow_pos 53)
    have hlog : 53 ≤ q.log2 := (Nat.le_log2 hq).mpr (Nat.le_of_not_lt h)
    have hpos : 0 < 2 ^ (q.log2 - 52) := Nat.two_pow_pos _
    constructor
    · rw [Nat.div_lt_iff_lt_mul hpos, ← Nat.pow_add]
      have hexponent : 53 + (q.log2 - 52) = q.log2 + 1 := by omega
      rw [hexponent]
      exact Nat.lt_log2_self
    · right
      rw [Nat.le_div_iff_mul_le hpos, ← Nat.pow_add]
      have hexponent : 52 + (q.log2 - 52) = q.log2 := by omega
      rw [hexponent]
      exact Nat.log2_self_le hq

/-- The exponent of a number below a power of two. -/
theorem exponentFor_le {q k e : Nat} (hk : k ≤ e + 53) (h : q < 2 ^ k) : exponentFor q ≤ e := by
  unfold exponentFor
  split
  · exact Nat.zero_le e
  · next hlarge =>
    have hq : q ≠ 0 := by
      rintro rfl
      exact hlarge (Nat.two_pow_pos 53)
    have hlog := (Nat.log2_lt hq).mpr h
    omega

/-- Below `2 ^ 2097` units a quotient has a nearest number. -/
theorem exists_round? {n d k : Nat} (hk : k ≤ 2097) (h : n / d < 2 ^ k) (negative : Bool) :
    ∃ x, round? negative n d = some x := by
  have he : exponentFor (n / d) ≤ 2044 := exponentFor_le hk h
  obtain ⟨hlt, hfull⟩ := div_exponentFor_bounds (n / d)
  rw [Nat.div_div_eq_div_mul] at hlt hfull
  obtain ⟨hlow, hhigh⟩ := roundDiv_bounds n (d * 2 ^ exponentFor (n / d))
  unfold round?
  -- Rounding up may carry into a 54th bit, and then the exponent is one more.
  by_cases hcarry : roundDiv n (d * 2 ^ exponentFor (n / d)) = 2 ^ 53
  · have hover : roundDiv n (d * 2 ^ exponentFor (n / d)) = 2 ^ 53 ∧
        exponentFor (n / d) + 1 ≤ 2045 := ⟨hcarry, by omega⟩
    exact ⟨_, (dif_neg (by omega)).trans (dif_pos hover)⟩
  · have hkept : roundDiv n (d * 2 ^ exponentFor (n / d)) < 2 ^ 53 ∧
        (exponentFor (n / d) = 0 ∨ 2 ^ 52 ≤ roundDiv n (d * 2 ^ exponentFor (n / d))) ∧
        exponentFor (n / d) ≤ 2045 :=
      ⟨by omega, hfull.imp_right fun hbits ↦ by omega, by omega⟩
    exact ⟨_, dif_pos hkept⟩

private theorem exists_ofInt? {i : Int} {k : Nat} (hk : k ≤ 1023) (h : i.natAbs < 2 ^ k) :
    ∃ x, ofInt? i = some x := by
  have hunits : k + 1074 ≤ 2097 := by omega
  refine exists_round? hunits ?_ _
  rw [Nat.div_one, Nat.pow_add]
  exact Nat.mul_lt_mul_of_pos_right h (Nat.two_pow_pos 1074)

end Binary64

/-- Every number of a JSON value has a nearest binary64 number. -/
theorem Number.exists_toDouble? (n : Number) : ∃ x, n.toDouble? = some x := by
  cases n with
  | natural n =>
    have hn := n.isLt
    exact Binary64.exists_ofInt? (k := 64) (by decide) (by omega)
  | negative n =>
    have hn := n.isLt
    exact Binary64.exists_ofInt? (k := 64) (by decide) (by omega)
  | double x => exact ⟨x, rfl⟩

end Certification
