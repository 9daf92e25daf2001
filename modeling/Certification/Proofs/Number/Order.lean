import Certification.Proofs.Number.Rounded
import Mathlib.Tactic.Linarith

/-!
# Order of rounded integers

Rounding keeps the order of integers, although not strictly. It leaves an integer of at most 53
significant bits as it is, and moves one of `53 + k` bits by at most half of `2 ^ k`. So two integers
stay apart if neither is changed, if one that is not large stands between them together with the one
after it, or if they are more than `2 ^ k` apart. Magnitudes are counted in units, of which a power
of two make one.
-/

namespace Certification

namespace Binary64

/-- The magnitude that is nearest to a number of units, when it is kept with 53 bits. -/
def nearest (q : Nat) : Nat := roundDiv q (2 ^ exponentFor q) * 2 ^ exponentFor q

/-! ### Magnitudes -/

private theorem carry_mul_two_pow (e : Nat) : 2 ^ 52 * 2 ^ (e + 1) = 2 ^ 53 * 2 ^ e := by
  rw [← Nat.pow_add, ← Nat.pow_add]
  congr 1
  omega

private theorem of_round?_eq_some {negative : Bool} {q : Nat} {x : Binary64}
    (h : round? negative q 1 = some x) : x.negative = negative ∧ x.magnitude = nearest q := by
  simp only [round?, Nat.div_one, Nat.one_mul] at h
  split at h
  · cases h
    exact ⟨rfl, rfl⟩
  · split at h
    · next hcarry =>
      cases h
      refine ⟨rfl, (carry_mul_two_pow _).trans ?_⟩
      rw [nearest, hcarry.1]
    · cases h

private theorem roundDiv_mono {n m : Nat} (d : Nat) (h : n ≤ m) : roundDiv n d ≤ roundDiv m d := by
  rcases Nat.lt_or_eq_of_le (Nat.div_le_div_right (c := d) h) with hlt | heq
  · calc roundDiv n d ≤ n / d + 1 := (roundDiv_bounds n d).2
      _ ≤ m / d := hlt
      _ ≤ roundDiv m d := (roundDiv_bounds m d).1
  · have hn := Nat.div_add_mod n d
    have hm := Nat.div_add_mod m d
    rw [heq] at hn
    have hmod : n % d ≤ m % d := by omega
    simp only [roundDiv, heq]
    split <;> split <;> omega

private theorem exponentFor_mono {p q : Nat} (h : p ≤ q) : exponentFor p ≤ exponentFor q := by
  unfold exponentFor
  split
  · exact Nat.zero_le _
  · next hp =>
    rw [if_neg (by omega)]
    have hlog : p.log2 ≤ q.log2 := (Nat.le_log2 (by omega)).mpr
      (Nat.le_trans (Nat.log2_self_le (by omega)) h)
    omega

/-- Rounding keeps the order of magnitudes. -/
theorem nearest_mono {p q : Nat} (h : p ≤ q) : nearest p ≤ nearest q := by
  rcases Nat.lt_or_eq_of_le (exponentFor_mono h) with hlt | heq
  · -- With more than one exponent, a power of two lies between the two magnitudes.
    have hp := (div_exponentFor_bounds p).1
    have hq := (div_exponentFor_bounds q).2.resolve_left (by omega)
    have hpower : 2 ^ (exponentFor p + 1) ≤ 2 ^ exponentFor q := Nat.pow_le_pow_right (by decide) hlt
    calc nearest p ≤ 2 ^ 53 * 2 ^ exponentFor p :=
          Nat.mul_le_mul_right _ (Nat.le_trans (roundDiv_bounds _ _).2 hp)
      _ = 2 ^ 52 * 2 ^ (exponentFor p + 1) := (carry_mul_two_pow _).symm
      _ ≤ 2 ^ 52 * 2 ^ exponentFor q := Nat.mul_le_mul_left _ hpower
      _ ≤ nearest q := Nat.mul_le_mul_right _ (Nat.le_trans hq (roundDiv_bounds _ _).1)
  · rw [nearest, nearest, heq]
    exact Nat.mul_le_mul_right _ (roundDiv_mono _ h)

private theorem roundDiv_of_dvd {n d : Nat} (hd : 0 < d) (h : d ∣ n) : roundDiv n d = n / d := by
  have hmod : n % d = 0 := Nat.mod_eq_zero_of_dvd h
  simp [roundDiv, hmod, hd]

private theorem nearest_mul_two_pow {n k : Nat} (h : n ≤ 2 ^ 53) :
    nearest (n * 2 ^ k) = n * 2 ^ k := by
  have hdvd : 2 ^ exponentFor (n * 2 ^ k) ∣ n * 2 ^ k := by
    rcases Nat.lt_or_eq_of_le h with hlt | rfl
    · have hle : exponentFor (n * 2 ^ k) ≤ k := by
        apply exponentFor_le (k := 53 + k) (by omega)
        rw [Nat.pow_add]
        exact Nat.mul_lt_mul_of_pos_right hlt (Nat.two_pow_pos k)
      exact Nat.dvd_mul_left_of_dvd (Nat.pow_dvd_pow 2 hle) n
    · rw [← Nat.pow_add]
      refine Nat.pow_dvd_pow 2 (Nat.le_trans (exponentFor_le (k := 53 + k + 1) (e := k + 1) (by omega)
        (Nat.pow_lt_pow_right (by decide) (Nat.lt_succ_self _))) (by omega))
  rw [nearest, roundDiv_of_dvd (Nat.two_pow_pos _) hdvd, Nat.div_mul_cancel hdvd]

private theorem two_mul_roundDiv_mul_bounds {n d : Nat} (hd : 0 < d) :
    2 * (roundDiv n d * d) ≤ 2 * n + d ∧ 2 * n ≤ 2 * (roundDiv n d * d) + d := by
  have hn := Nat.div_add_mod' n d
  have hmod := Nat.mod_lt n hd
  simp only [roundDiv]
  split
  · omega
  · rw [Nat.add_mul, Nat.one_mul]
    omega

private theorem two_mul_nearest_bounds {q e : Nat} (h : q < 2 ^ (e + 53)) :
    2 * nearest q ≤ 2 * q + 2 ^ e ∧ 2 * q ≤ 2 * nearest q + 2 ^ e := by
  have hpower : 2 ^ exponentFor q ≤ 2 ^ e :=
    Nat.pow_le_pow_right (by decide) (exponentFor_le (Nat.le_refl _) h)
  obtain ⟨hupper, hlower⟩ := two_mul_roundDiv_mul_bounds (n := q) (Nat.two_pow_pos (exponentFor q))
  rw [nearest]
  omega

/-! ### Integers -/

/-- The value of the number that is nearest to an integer, where `2 ^ unit` units make one. -/
def nearestInt (unit : Nat) (i : Int) : Int :=
  if i < 0 then -(nearest (i.natAbs * 2 ^ unit) : Int) else nearest (i.natAbs * 2 ^ unit)

private theorem units_of_ofInt? {i : Int} {x : Binary64} (h : ofInt? i = some x) :
    x.units = nearestInt 1074 i := by
  obtain ⟨hnegative, hmagnitude⟩ := of_round?_eq_some h
  rw [units, hnegative, hmagnitude]
  simp only [decide_eq_true_eq]
  rfl

variable {unit : Nat} {i j : Int}

/-- Rounding keeps the order of integers. -/
theorem nearestInt_mono (h : i ≤ j) : nearestInt unit i ≤ nearestInt unit j := by
  have hmono {a b : Int} (hab : a.natAbs ≤ b.natAbs) :
      nearest (a.natAbs * 2 ^ unit) ≤ nearest (b.natAbs * 2 ^ unit) :=
    nearest_mono (Nat.mul_le_mul_right _ hab)
  unfold nearestInt
  split <;> split
  · have hle := hmono (a := j) (b := i) (by omega)
    omega
  · omega
  · omega
  · have hle := hmono (a := i) (b := j) (by omega)
    omega

/-- The integer has at most 53 significant bits. -/
def Kept (i : Int) : Prop := ∃ (a : Int) (k : Nat), a.natAbs ≤ 2 ^ 53 ∧ i = a * (2 ^ k : Nat)

private theorem kept_of_natAbs_le (h : i.natAbs ≤ 2 ^ 53) : Kept i := ⟨i, 0, h, by simp⟩

private theorem nearestInt_of_kept (h : Kept i) : nearestInt unit i = i * (2 ^ unit : Nat) := by
  obtain ⟨a, k, ha, hi⟩ := h
  have hself : nearest (i.natAbs * 2 ^ unit) = i.natAbs * 2 ^ unit := by
    rw [hi, Int.natAbs_mul, Int.natAbs_natCast, Nat.mul_assoc, ← Nat.pow_add]
    exact nearest_mul_two_pow ha
  unfold nearestInt
  rw [hself, Nat.cast_mul]
  split
  · have habs : (i.natAbs : Int) = -i := by omega
    rw [habs, neg_mul, neg_neg]
  · have habs : (i.natAbs : Int) = i := by omega
    rw [habs]

/-- Rounding moves an integer by at most half a unit in the last place that is kept. -/
theorem two_mul_nearestInt_bounds {k : Nat} (h : i.natAbs < 2 ^ (53 + k)) :
    2 * nearestInt unit i ≤ (2 * i + (2 ^ k : Nat)) * (2 ^ unit : Nat) ∧
      (2 * i - (2 ^ k : Nat)) * (2 ^ unit : Nat) ≤ 2 * nearestInt unit i := by
  have hlt : i.natAbs * 2 ^ unit < 2 ^ (k + unit + 53) := by
    have hexponent : k + unit + 53 = 53 + k + unit := by omega
    rw [hexponent, Nat.pow_add]
    exact Nat.mul_lt_mul_of_pos_right h (Nat.two_pow_pos unit)
  obtain ⟨hupper, hlower⟩ := two_mul_nearest_bounds hlt
  rw [Nat.pow_add] at hupper hlower
  unfold nearestInt
  split
  · have hi : i = -(i.natAbs : Int) := by omega
    generalize i.natAbs = n at *
    subst hi
    constructor <;> push_cast <;> linarith
  · have hi : i = (i.natAbs : Int) := by omega
    generalize i.natAbs = n at *
    subst hi
    constructor <;> push_cast <;> linarith

private theorem min_nearest_div {bound : Nat} (h : bound ≤ 2 ^ 53) (n unit : Nat) :
    min (nearest (n * 2 ^ unit) / 2 ^ unit) bound = min n bound := by
  have hpos : 0 < 2 ^ unit := Nat.two_pow_pos unit
  rcases Nat.le_total n (2 ^ 53) with hsmall | hlarge
  · rw [nearest_mul_two_pow hsmall, Nat.mul_div_cancel _ hpos]
  · have hnearest : 2 ^ 53 * 2 ^ unit ≤ nearest (n * 2 ^ unit) :=
      calc 2 ^ 53 * 2 ^ unit = nearest (2 ^ 53 * 2 ^ unit) :=
            (nearest_mul_two_pow (Nat.le_refl _)).symm
        _ ≤ nearest (n * 2 ^ unit) := nearest_mono (Nat.mul_le_mul_right _ hlarge)
    have hquotient : 2 ^ 53 ≤ nearest (n * 2 ^ unit) / 2 ^ unit :=
      (Nat.le_div_iff_mul_le hpos).mpr hnearest
    rw [Nat.min_eq_right (Nat.le_trans h hquotient), Nat.min_eq_right (Nat.le_trans h hlarge)]

/-- The number that is nearest to an integer is clamped to a bound of at most 53 bits as the integer
is. -/
theorem clampTo_of_ofInt? {bound : Nat} (h : bound ≤ 2 ^ 53) {x : Binary64}
    (hx : ofInt? i = some x) : clampTo bound x = min i.toNat bound := by
  obtain ⟨hnegative, hmagnitude⟩ := of_round?_eq_some hx
  rw [clampTo, hnegative, hmagnitude]
  split
  · next hneg =>
    have hlt : i < 0 := of_decide_eq_true hneg
    rw [Int.toNat_of_nonpos hlt.le, Nat.zero_min]
  · next hneg =>
    have hle : 0 ≤ i := Int.not_lt.mp fun hlt ↦ hneg (decide_eq_true hlt)
    have habs : i.natAbs = i.toNat :=
      Int.natCast_inj.mp ((Int.natAbs_of_nonneg hle).trans (Int.toNat_of_nonneg hle).symm)
    rw [habs]
    exact min_nearest_div h i.toNat 1074

/-- Of two integers that are not changed by rounding the less stays less. -/
theorem nearestInt_lt_of_kept (hi : Kept i) (hj : Kept j) (h : i < j) :
    nearestInt unit i < nearestInt unit j := by
  rw [nearestInt_of_kept hi, nearestInt_of_kept hj]
  exact Int.mul_lt_mul_of_pos_right h (Int.natCast_pos.mpr (Nat.two_pow_pos unit))

/-- Rounding does not bring two integers together when one that is not large and the one after it
stand between them. -/
theorem nearestInt_lt_of_between {m : Int} (hm : -2 ^ 53 ≤ m ∧ m < 2 ^ 53) (hi : i ≤ m)
    (hj : m < j) : nearestInt unit i < nearestInt unit j :=
  calc nearestInt unit i ≤ nearestInt unit m := nearestInt_mono hi
    _ < nearestInt unit (m + 1) := nearestInt_lt_of_kept (kept_of_natAbs_le (by omega))
        (kept_of_natAbs_le (by omega)) (Int.lt_succ m)
    _ ≤ nearestInt unit j := nearestInt_mono hj

/-- Rounding does not bring two integers together when they are far apart. -/
theorem nearestInt_lt_of_apart {k : Nat} (hi : i.natAbs < 2 ^ (53 + k))
    (hj : j.natAbs < 2 ^ (53 + k)) (h : (2 ^ k : Nat) < j - i) :
    nearestInt unit i < nearestInt unit j := by
  have hupper : 2 * nearestInt unit i ≤ _ := (two_mul_nearestInt_bounds hi).1
  have hlower : _ ≤ 2 * nearestInt unit j := (two_mul_nearestInt_bounds hj).2
  have hgap : (2 * i + (2 ^ k : Nat)) * (2 ^ unit : Nat) <
      (2 * j - (2 ^ k : Nat)) * (2 ^ unit : Nat) :=
    Int.mul_lt_mul_of_pos_right (by omega) (Int.natCast_pos.mpr (Nat.two_pow_pos unit))
  omega

end Binary64

namespace Number

variable {n : Number} {i : Int}

/-- An integer of a JSON value has at most 64 bits. -/
theorem natAbs_lt_of_toInt? (h : n.toInt? = some i) : i.natAbs < 2 ^ 64 := by
  cases n with
  | natural m =>
    cases h
    exact m.isLt
  | negative m =>
    have hm := m.isLt
    obtain rfl : -(m.val : Int) - 1 = i := Option.some.inj h
    omega
  | double _ => cases h

private theorem toDouble?_of_toInt? (h : n.toInt? = some i) : n.toDouble? = Binary64.ofInt? i := by
  cases n with
  | natural _ | negative _ =>
    cases h
    rfl
  | double _ => cases h

/-- An integer of a JSON value is rounded to the number that is nearest to it. -/
theorem exists_toDouble?_of_toInt? (h : n.toInt? = some i) :
    ∃ x, n.toDouble? = some x ∧ x.units = Binary64.nearestInt 1074 i := by
  obtain ⟨x, hx⟩ := n.exists_toDouble?
  exact ⟨x, hx, Binary64.units_of_ofInt? ((toDouble?_of_toInt? h).symm.trans hx)⟩

/-- An integer of a JSON value is clamped to a bound of at most 53 bits as an integer. -/
theorem map_clampTo_toDouble? {bound : Nat} (hbound : bound ≤ 2 ^ 53) (h : n.toInt? = some i) :
    n.toDouble?.map (Binary64.clampTo bound) = some (min i.toNat bound) := by
  obtain ⟨x, hx⟩ := n.exists_toDouble?
  rw [hx, Option.map_some,
    Binary64.clampTo_of_ofInt? hbound ((toDouble?_of_toInt? h).symm.trans hx)]

end Number

end Certification
