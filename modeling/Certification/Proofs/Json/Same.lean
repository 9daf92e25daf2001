import Certification.Json.Basic
import Certification.Proofs.Number.Interval

/-!
# Values that are the same

Two JSON values count as the same when they are built alike and their numbers are of the same kind
and have the same value. No two binary64 numbers have the same value but the two zeros, so values
are the same exactly when they are equal after the signs of their zeros are taken away.
-/

namespace Certification

namespace Binary64

variable {x y : Binary64}

/-- The number, without the sign of a zero. -/
def withoutZeroSign (x : Binary64) : Binary64 := { x with negative := x.negative && !x.isZero }

private theorem eq_of_magnitude_eq (h : x.magnitude = y.magnitude) :
    x.significand = y.significand ∧ x.exponent = y.exponent := by
  have hdecimal : x.exactDecimal = y.exactDecimal := by rw [exactDecimal, exactDecimal, h]
  have hy := y.determinedBy_exactDecimal
  rw [← hdecimal] at hy
  exact eq_of_determinedBy x.determinedBy_exactDecimal hy

/-- A number has no magnitude when it is a zero. -/
theorem magnitude_eq_zero_iff : x.magnitude = 0 ↔ x.isZero = true := by
  have hpower : 2 ^ x.exponent ≠ 0 := Nat.ne_of_gt (Nat.two_pow_pos _)
  rw [magnitude, isZero, beq_iff_eq, Nat.mul_eq_zero, or_iff_left hpower]

private theorem natAbs_units (x : Binary64) : x.units.natAbs = x.magnitude := by
  unfold units
  split <;> simp

/-- Numbers have the same value when they have the same magnitude, and the same sign unless they are
zeros. -/
theorem units_eq_iff :
    x.units = y.units ↔
      x.magnitude = y.magnitude ∧ (x.negative && !x.isZero) = (y.negative && !y.isZero) := by
  have hzeros (h : x.magnitude = y.magnitude) : x.isZero = y.isZero := by
    rw [Bool.eq_iff_iff, ← magnitude_eq_zero_iff, ← magnitude_eq_zero_iff, h]
  constructor
  · intro h
    have hmagnitude : x.magnitude = y.magnitude := by rw [← natAbs_units, ← natAbs_units, h]
    refine ⟨hmagnitude, ?_⟩
    rw [← hzeros hmagnitude]
    cases hz : x.isZero with
    | true => simp
    | false =>
      have hpos : x.magnitude ≠ 0 := by simp [magnitude_eq_zero_iff, hz]
      unfold units at h
      cases hx : x.negative <;> cases hy : y.negative <;> simp [hx, hy] at h ⊢ <;> omega
  · rintro ⟨hmagnitude, hsign⟩
    rw [← hzeros hmagnitude] at hsign
    unfold units
    cases hz : x.isZero with
    | true => simp [← hmagnitude, magnitude_eq_zero_iff.mpr hz]
    | false =>
      rw [hz, Bool.not_false, Bool.and_true, Bool.and_true] at hsign
      rw [hsign, hmagnitude]

/-- Numbers have the same value when they are equal but for the sign of a zero. -/
theorem sameValue_iff : x.sameValue y = true ↔ x.withoutZeroSign = y.withoutZeroSign := by
  rw [sameValue, decide_eq_true_eq, units_eq_iff, withoutZeroSign, withoutZeroSign, mk.injEq]
  constructor
  · rintro ⟨hmagnitude, hsign⟩
    exact ⟨hsign, eq_of_magnitude_eq hmagnitude⟩
  · rintro ⟨hsign, hsignificand, hexponent⟩
    exact ⟨by rw [magnitude, magnitude, hsignificand, hexponent], hsign⟩

end Binary64

namespace Number

/-- The number, without the sign of a zero. -/
def withoutZeroSign : Number → Number
  | .natural n => .natural n
  | .negative n => .negative n
  | .double x => .double x.withoutZeroSign

/-- Numbers are the same when they are equal but for the sign of a zero. -/
theorem same_iff {m n : Number} : m.same n = true ↔ m.withoutZeroSign = n.withoutZeroSign := by
  cases m <;> cases n <;> simp [same, withoutZeroSign, Binary64.sameValue_iff]

end Number

namespace Json

mutual

/-- The value, without the signs of its zeros. -/
def withoutZeroSigns : Json → Json
  | .null => .null
  | .bool b => .bool b
  | .number n => .number n.withoutZeroSign
  | .string s => .string s
  | .array items => .array (withoutZeroSignsItems items)
  | .object entries => .object (withoutZeroSignsEntries entries)

/-- The values of a list, without the signs of their zeros. -/
def withoutZeroSignsItems : List Json → List Json
  | [] => []
  | j :: js => withoutZeroSigns j :: withoutZeroSignsItems js

/-- The values of a list of entries, without the signs of their zeros. -/
def withoutZeroSignsEntries : List (String × Json) → List (String × Json)
  | [] => []
  | (k, j) :: rest => (k, withoutZeroSigns j) :: withoutZeroSignsEntries rest

end

mutual

/-- Values are the same when they are equal but for the signs of their zeros. -/
theorem same_iff : (a b : Json) → (a.same b = true ↔ a.withoutZeroSigns = b.withoutZeroSigns)
  | .null, .null => by simp [same]
  | .bool a, .bool b => by simp [same, withoutZeroSigns]
  | .number m, .number n => by simp [same, withoutZeroSigns, Number.same_iff]
  | .string s, .string t => by simp [same, withoutZeroSigns]
  | .array as, .array bs => by simp [same, withoutZeroSigns, sameItems_iff as bs]
  | .object as, .object bs => by simp [same, withoutZeroSigns, sameEntries_iff as bs]
  | .null, .bool _ | .null, .number _ | .null, .string _ | .null, .array _ | .null, .object _
  | .bool _, .null | .bool _, .number _ | .bool _, .string _ | .bool _, .array _
  | .bool _, .object _
  | .number _, .null | .number _, .bool _ | .number _, .string _ | .number _, .array _
  | .number _, .object _
  | .string _, .null | .string _, .bool _ | .string _, .number _ | .string _, .array _
  | .string _, .object _
  | .array _, .null | .array _, .bool _ | .array _, .number _ | .array _, .string _
  | .array _, .object _
  | .object _, .null | .object _, .bool _ | .object _, .number _ | .object _, .string _
  | .object _, .array _ => by simp [same, withoutZeroSigns]

/-- Values are the same one by one when they are equal but for the signs of their zeros. -/
theorem sameItems_iff : (as bs : List Json) →
    (sameItems as bs = true ↔ withoutZeroSignsItems as = withoutZeroSignsItems bs)
  | [], [] => by simp [sameItems]
  | [], _ :: _ | _ :: _, [] => by simp [sameItems, withoutZeroSignsItems]
  | a :: as, b :: bs => by
    simp [sameItems, withoutZeroSignsItems, same_iff a b, sameItems_iff as bs]

/-- Entries are the same one by one when they are equal but for the signs of zeros. -/
theorem sameEntries_iff : (as bs : List (String × Json)) →
    (sameEntries as bs = true ↔ withoutZeroSignsEntries as = withoutZeroSignsEntries bs)
  | [], [] => by simp [sameEntries]
  | [], (_, _) :: _ | (_, _) :: _, [] => by simp [sameEntries, withoutZeroSignsEntries]
  | (k, a) :: as, (l, b) :: bs => by
    simp [sameEntries, withoutZeroSignsEntries, same_iff a b, sameEntries_iff as bs, and_assoc]

end

end Json

end Certification
