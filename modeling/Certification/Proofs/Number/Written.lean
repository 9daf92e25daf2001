import Certification.Proofs.Number.Numeral

/-!
# Written numbers

Every number is written as a numeral that denotes it. A numeral denotes one number at most: without
a point and a power of ten it denotes the integer that it spells, and otherwise the binary64 number
that its decimal determines. So two numbers with one text are the same, and no two kinds of numbers
share a text.
-/

namespace Certification

open Certification.Text Certification.Document

/-! ### Zeros at the end of the digits -/

namespace Decimal

variable {d d' : Decimal}

private theorem determinedBy_of_scaled {k : Nat} (hk : 0 < k) (hnum : d.num = k * d'.num)
    (hden : d.den = k * d'.den) (x : Binary64) : x.determinedBy d = x.determinedBy d' := by
  have hquarters : d.quarters = k * d'.quarters := by
    rw [quarters, hnum, Nat.mul_assoc, quarters]
  have hscale (n : Nat) : n * d.den = k * (n * d'.den) := by
    rw [hden, Nat.mul_left_comm]
  rw [Bool.eq_iff_iff, Binary64.determinedBy_eq_true_iff, Binary64.determinedBy_eq_true_iff,
    hquarters, hscale, hscale]
  simp only [Nat.mul_le_mul_left_iff hk, Nat.mul_lt_mul_left hk]

/-- A zero at the end of the digits stands for a power of ten. -/
theorem determinedBy_mul_ten (x : Binary64) (digits : Nat) (exponent : Int) :
    x.determinedBy ⟨digits * 10, exponent⟩ = x.determinedBy ⟨digits, exponent + 1⟩ := by
  rcases Int.lt_or_le exponent 0 with hneg | hpos
  · have hnum : exponent.toNat = 0 ∧ (exponent + 1).toNat = 0 := by omega
    have hden : (-exponent).toNat = (-(exponent + 1)).toNat + 1 := by omega
    refine determinedBy_of_scaled (k := 10) (by decide) ?_ ?_ x
    · simp only [num, hnum.1, hnum.2, Nat.pow_zero, Nat.mul_one]
      exact Nat.mul_comm _ _
    · simp only [den, hden, Nat.pow_succ]
      exact Nat.mul_comm _ _
  · have hnum : (exponent + 1).toNat = exponent.toNat + 1 := by omega
    have hden : (-exponent).toNat = 0 ∧ (-(exponent + 1)).toNat = 0 := by omega
    refine determinedBy_of_scaled (k := 1) Nat.one_pos ?_ ?_ x
    · simp only [num, hnum, Nat.pow_succ, Nat.one_mul]
      rw [Nat.mul_assoc, Nat.mul_comm 10]
    · simp only [den, hden.1, hden.2, Nat.one_mul]

private theorem determinedBy_mul_pow (x : Binary64) (digits : Nat) (exponent : Int) (count : Nat) :
    x.determinedBy ⟨digits * 10 ^ count, exponent - count⟩ = x.determinedBy ⟨digits, exponent⟩ := by
  induction count with
  | zero => rw [Nat.pow_zero, Nat.mul_one, Int.natCast_zero, Int.sub_zero]
  | succ count ih =>
    have hexponent : exponent - (count + 1 : Nat) + 1 = exponent - count := by omega
    rw [Nat.pow_succ, ← Nat.mul_assoc, determinedBy_mul_ten, hexponent, ih]

private theorem determinedBy_dropZeros (d : Decimal) (x : Binary64) :
    x.determinedBy d.dropZeros = x.determinedBy d := by
  induction d using dropZeros.induct with
  | case1 d h ih =>
    have hdigits : d.digits / 10 * 10 = d.digits := by omega
    rw [dropZeros, dif_pos h, ih, ← determinedBy_mul_ten, hdigits]
  | case2 d h => rw [dropZeros, dif_neg h]

/-! ### Layouts of decimals -/

/-- Decimal exponent of the leading digit. -/
def lead (d : Decimal) : Int := d.exponent + (Nat.toDigits 10 d.digits).length - 1

/-- The four layouts of a decimal. -/
theorem write_eq (d : Decimal) :
    d.write =
      if -5 ≤ d.lead ∧ d.lead < 16 then
        if 0 ≤ d.exponent then
          Nat.toDigits 10 d.digits ++ zeros d.exponent.toNat ++ ['.', '0']
        else if 0 ≤ d.lead then
          (Nat.toDigits 10 d.digits).take (d.lead.toNat + 1) ++
            '.' :: (Nat.toDigits 10 d.digits).drop (d.lead.toNat + 1)
        else '0' :: '.' :: zeros (-d.lead - 1).toNat ++ Nat.toDigits 10 d.digits
      else
        (match Nat.toDigits 10 d.digits with
          | first :: second :: more => first :: '.' :: second :: more
          | ds => ds) ++
        'e' :: (if d.lead < 0 then '-' else '+') :: Nat.toDigits 10 d.lead.natAbs := rfl

end Decimal

namespace Numeral

/-! ### Numerals of decimals -/

/-- A numeral that spells a decimal: no sign, a point or a power of ten, and the magnitude of the
decimal but for zeros at the end of the digits. -/
structure Spells (n : Numeral) (d : Decimal) : Prop where
  wellFormed : n.WellFormed
  negative : n.negative = false
  not_isInteger : ¬ n.IsInteger
  text_eq : n.text = d.write
  decimal_eq : ∃ count : Nat, n.decimal = ⟨d.digits * 10 ^ count, d.exponent - count⟩

private theorem isDigit_toDigits (n : Nat) : ∀ c ∈ Nat.toDigits 10 n, c.isDigit = true :=
  fun _ hc ↦ Nat.isDigit_of_mem_toDigits (by decide) (by decide) hc

private theorem isDigit_zeros (count : Nat) : ∀ c ∈ Decimal.zeros count, c.isDigit = true := by
  intro c hc
  rw [List.eq_of_mem_replicate hc]
  rfl

private theorem ofDigitChars_append_zeros (n count : Nat) :
    Nat.ofDigitChars 10 (Nat.toDigits 10 n ++ Decimal.zeros count) 0 = n * 10 ^ count := by
  rw [Nat.ofDigitChars_append, Nat.ofDigitChars_ten_toDigits, Decimal.zeros,
    Nat.ofDigitChars_replicate_zero, Nat.mul_comm]

private theorem ofDigitChars_zeros_append (n count : Nat) :
    Nat.ofDigitChars 10 (Decimal.zeros count ++ Nat.toDigits 10 n) 0 = n := by
  rw [Nat.ofDigitChars_append, Decimal.zeros, Nat.ofDigitChars_replicate_zero, Nat.mul_zero,
    Nat.ofDigitChars_ten_toDigits]

section Layouts

variable {d : Decimal}

private theorem decimal_eq_of_digits {n : Numeral}
    (hdigits : Nat.ofDigitChars 10 (n.whole ++ n.fraction) 0 = d.digits)
    (hexponent : powerValue n.power - n.fraction.length = d.exponent) :
    ∃ count : Nat, n.decimal = ⟨d.digits * 10 ^ count, d.exponent - count⟩ := by
  refine ⟨0, ?_⟩
  rw [decimal, hdigits, hexponent, Nat.pow_zero, Nat.mul_one, Int.natCast_zero, Int.sub_zero]

/-- The digits, zeros up to the point and one after it. -/
theorem spells_whole (hnear : -5 ≤ d.lead ∧ d.lead < 16) (hexponent : 0 ≤ d.exponent) :
    Spells ⟨false, Nat.toDigits 10 d.digits ++ Decimal.zeros d.exponent.toNat, ['0'], none⟩ d where
  wellFormed := {
    whole_ne_nil := fun hnil ↦ Nat.toDigits_ne_nil (List.append_eq_nil_iff.mp hnil).1
    isDigit_whole := List.forall_mem_append.mpr ⟨isDigit_toDigits _, isDigit_zeros _⟩
    isDigit_fraction := isDigit_zeros 1
    isDigit_power := nofun }
  negative := rfl
  not_isInteger := fun hinteger ↦ nomatch hinteger.1
  text_eq := by
    rw [Decimal.write_eq, if_pos hnear, if_pos hexponent]
    rfl
  decimal_eq := by
    have hzeros : Decimal.zeros d.exponent.toNat ++ ['0'] = Decimal.zeros (d.exponent.toNat + 1) :=
      List.replicate_succ'.symm
    have hpoint : d.exponent - (d.exponent.toNat + 1 : Nat) = 0 - (1 : Nat) := by omega
    refine ⟨d.exponent.toNat + 1, ?_⟩
    rw [hpoint, ← ofDigitChars_append_zeros, ← hzeros, ← List.append_assoc]
    rfl

/-- The digits with the point among them. -/
theorem spells_split (hnear : -5 ≤ d.lead ∧ d.lead < 16) (hexponent : ¬ 0 ≤ d.exponent)
    (hlead : 0 ≤ d.lead) :
    Spells ⟨false, (Nat.toDigits 10 d.digits).take (d.lead.toNat + 1),
      (Nat.toDigits 10 d.digits).drop (d.lead.toNat + 1), none⟩ d := by
  -- The fraction has as many digits as the exponent says, so there is one.
  have hlength : ((Nat.toDigits 10 d.digits).drop (d.lead.toNat + 1)).length =
      (-d.exponent).toNat := by
    rw [List.length_drop]
    unfold Decimal.lead at hlead ⊢
    omega
  obtain ⟨c, cs, hfraction⟩ :
      ∃ c cs, (Nat.toDigits 10 d.digits).drop (d.lead.toNat + 1) = c :: cs :=
    List.exists_cons_of_length_pos (by omega)
  exact {
    wellFormed := {
      whole_ne_nil := by
        intro hnil
        rcases List.take_eq_nil_iff.mp hnil with hzero | hnil
        · omega
        · exact Nat.toDigits_ne_nil hnil
      isDigit_whole := fun c hc ↦ isDigit_toDigits _ c (List.mem_of_mem_take hc)
      isDigit_fraction := fun c hc ↦ isDigit_toDigits _ c (List.mem_of_mem_drop hc)
      isDigit_power := nofun }
    negative := rfl
    not_isInteger := by
      intro hinteger
      have hnil := hinteger.1.symm.trans hfraction
      cases hnil
    text_eq := by
      rw [Decimal.write_eq, if_pos hnear, if_neg hexponent, if_pos hlead, hfraction]
      simp only [text, fractionText, powerText, List.append_nil]
      rfl
    decimal_eq := by
      refine decimal_eq_of_digits ?_ ?_
      · rw [List.take_append_drop, Nat.ofDigitChars_ten_toDigits]
      · simp only [powerValue]
        omega }

/-- Zeros after the point, then the digits. -/
theorem spells_leading (hnear : -5 ≤ d.lead ∧ d.lead < 16) (hexponent : ¬ 0 ≤ d.exponent)
    (hlead : ¬ 0 ≤ d.lead) :
    Spells
      ⟨false, ['0'], Decimal.zeros (-d.lead - 1).toNat ++ Nat.toDigits 10 d.digits, none⟩ d := by
  have hnil : Decimal.zeros (-d.lead - 1).toNat ++ Nat.toDigits 10 d.digits ≠ [] :=
    fun hnil ↦ Nat.toDigits_ne_nil (List.append_eq_nil_iff.mp hnil).2
  exact {
    wellFormed := {
      whole_ne_nil := nofun
      isDigit_whole := isDigit_zeros 1
      isDigit_fraction := List.forall_mem_append.mpr ⟨isDigit_zeros _, isDigit_toDigits _⟩
      isDigit_power := nofun }
    negative := rfl
    not_isInteger := fun hinteger ↦ hnil hinteger.1
    text_eq := by
      obtain ⟨c, cs, hfraction⟩ := List.exists_cons_of_ne_nil hnil
      rw [Decimal.write_eq, if_pos hnear, if_neg hexponent, if_neg hlead, List.cons_append,
        List.cons_append, hfraction]
      simp only [text, fractionText, powerText, List.append_nil]
      rfl
    decimal_eq := by
      refine decimal_eq_of_digits ?_ ?_
      · rw [← List.append_assoc]
        exact ofDigitChars_zeros_append d.digits ((-d.lead - 1).toNat + 1)
      · simp only [powerValue, List.length_append, Decimal.zeros, List.length_replicate]
        unfold Decimal.lead at hlead ⊢
        omega }

/-- One digit before the point, the others after it, and a power of ten. -/
theorem spells_scientific (hnear : ¬ (-5 ≤ d.lead ∧ d.lead < 16)) {c : Char} {cs : List Char}
    (hdigits : Nat.toDigits 10 d.digits = c :: cs) :
    Spells ⟨false, [c], cs, some (decide (d.lead < 0), Nat.toDigits 10 d.lead.natAbs)⟩ d where
  wellFormed := {
    whole_ne_nil := nofun
    isDigit_whole := by
      intro c' hc'
      obtain rfl := List.mem_singleton.mp hc'
      exact isDigit_toDigits d.digits c' (by rw [hdigits]; exact List.mem_cons_self)
    isDigit_fraction := fun c' hc' ↦
      isDigit_toDigits d.digits c' (by rw [hdigits]; exact List.mem_cons_of_mem c hc')
    isDigit_power := by
      rintro p ⟨⟩
      exact isDigit_toDigits _ }
  negative := rfl
  not_isInteger := fun hinteger ↦ nomatch hinteger.2
  text_eq := by
    rw [Decimal.write_eq, if_neg hnear, hdigits]
    cases cs <;> simp [text, fractionText, powerText]
  decimal_eq := by
    refine decimal_eq_of_digits ?_ ?_
    · rw [List.singleton_append, ← hdigits, Nat.ofDigitChars_ten_toDigits]
    · have hlength : (Nat.toDigits 10 d.digits).length = cs.length + 1 := by rw [hdigits]; rfl
      simp only [powerValue, Nat.ofDigitChars_ten_toDigits, decide_eq_true_eq]
      unfold Decimal.lead
      split_ifs <;> omega

end Layouts

private theorem exists_spells (d : Decimal) : ∃ n : Numeral, n.Spells d := by
  by_cases hnear : -5 ≤ d.lead ∧ d.lead < 16
  · by_cases h : 0 ≤ d.exponent
    · exact ⟨_, spells_whole hnear h⟩
    · by_cases hlead : 0 ≤ d.lead
      · exact ⟨_, spells_split hnear h hlead⟩
      · exact ⟨_, spells_leading hnear h hlead⟩
  · have hnil : Nat.toDigits 10 d.digits ≠ [] := Nat.toDigits_ne_nil
    obtain ⟨c, cs, hdigits⟩ := List.exists_cons_of_ne_nil hnil
    exact ⟨_, spells_scientific hnear hdigits⟩

/-! ### Numerals of numbers -/

/-- The numeral with a sign or without one. -/
def withSign (negative : Bool) (n : Numeral) : Numeral := { n with negative := negative }

private theorem text_withSign {n : Numeral} (h : n.negative = false) (negative : Bool) :
    (n.withSign negative).text = if negative then '-' :: n.text else n.text := by
  cases negative <;> simp [text, withSign, h]

/-- A numeral denotes a number: an integer, when neither a point nor a power of ten is there, and
otherwise the binary64 number of its sign that its decimal determines. -/
inductive Denotes (n : Numeral) : Number → Prop where
  | natural {k : Fin (2 ^ 64)} (isInteger : n.IsInteger) (sign : n.negative = false)
      (value : n.decimal.digits = k.val) : Denotes n (.natural k)
  | negative {k : Fin (2 ^ 63)} (isInteger : n.IsInteger) (sign : n.negative = true)
      (value : n.decimal.digits = k.val + 1) : Denotes n (.negative k)
  | double {x : Binary64} (not_isInteger : ¬ n.IsInteger) (sign : n.negative = x.negative)
      (determined : x.determinedBy n.decimal = true) : Denotes n (.double x)

/-- A numeral denotes one number at most. -/
theorem Denotes.unique {n : Numeral} {a b : Number} (ha : n.Denotes a) (hb : n.Denotes b) :
    a = b := by
  cases ha with
  | natural ha hasign havalue =>
    cases hb with
    | natural _ _ hbvalue => exact congrArg Number.natural (Fin.ext (havalue.symm.trans hbvalue))
    | negative _ hbsign _ => exact absurd (hasign.symm.trans hbsign) (by decide)
    | double hb _ _ => exact absurd ha hb
  | negative ha hasign havalue =>
    cases hb with
    | natural _ hbsign _ => exact absurd (hasign.symm.trans hbsign) (by decide)
    | negative _ _ hbvalue =>
      exact congrArg Number.negative (Fin.ext (Nat.succ.inj (havalue.symm.trans hbvalue)))
    | double hb _ _ => exact absurd ha hb
  | @double x ha hasign hadetermined =>
    cases hb with
    | natural hb _ _ => exact absurd hb ha
    | negative hb _ _ => exact absurd hb ha
    | @double y _ hbsign hbdetermined =>
      obtain ⟨hsignificand, hexponent⟩ := Binary64.eq_of_determinedBy hadetermined hbdetermined
      have hsign : x.negative = y.negative := hasign.symm.trans hbsign
      cases x
      cases y
      simp_all

private theorem wellFormed_toDigits (negative : Bool) (k : Nat) :
    (⟨negative, Nat.toDigits 10 k, [], none⟩ : Numeral).WellFormed where
  whole_ne_nil := Nat.toDigits_ne_nil
  isDigit_whole := isDigit_toDigits k
  isDigit_fraction := nofun
  isDigit_power := nofun

private theorem digits_decimal_toDigits (negative : Bool) (k : Nat) :
    (⟨negative, Nat.toDigits 10 k, [], none⟩ : Numeral).decimal.digits = k := by
  rw [decimal, List.append_nil, Nat.ofDigitChars_ten_toDigits]

end Numeral

namespace Binary64

private theorem determinedBy_zero {x : Binary64} (h : x.isZero = true) :
    x.determinedBy ⟨0, 0⟩ = true := by
  have hsignificand : x.significand = 0 := of_decide_eq_true h
  have hlow : x.low = 0 := by
    rw [low, lowerQuarters, hsignificand]
    split_ifs <;> exact Nat.zero_mul _
  have hnum : (⟨0, 0⟩ : Decimal).num = 0 := Nat.zero_mul _
  have hquarters : (⟨0, 0⟩ : Decimal).quarters = 0 :=
    Nat.mul_eq_zero.mpr (.inl hnum)
  rw [determinedBy_eq_true_iff, hsignificand, if_pos rfl, hlow, hquarters, Nat.zero_mul]
  exact ⟨Nat.le_refl 0, Nat.zero_le _⟩

/-- A binary64 number is written as a decimal that determines it, after its sign. -/
theorem exists_write (x : Binary64) :
    ∃ d : Decimal, x.determinedBy d = true ∧
      x.write = if x.negative then '-' :: d.write else d.write := by
  cases hzero : x.isZero with
  | true =>
    have hwrite : (⟨0, 0⟩ : Decimal).write = ['0', '.', '0'] := rfl
    refine ⟨⟨0, 0⟩, determinedBy_zero hzero, ?_⟩
    simp only [write, hzero, hwrite, ↓reduceIte]
  | false =>
    refine ⟨x.shortest.dropZeros, ?_, ?_⟩
    · rw [Decimal.determinedBy_dropZeros]
      exact x.determinedBy_shortest
    · simp only [write, hzero, Bool.false_eq_true, ↓reduceIte]

end Binary64

namespace Number

/-- Every number is written as a numeral that denotes it. -/
theorem exists_numeral (a : Number) :
    ∃ n : Numeral, n.WellFormed ∧ n.text = a.write ∧ n.Denotes a := by
  cases a with
  | natural k =>
    refine ⟨⟨false, Nat.toDigits 10 k.val, [], none⟩, Numeral.wellFormed_toDigits _ _, ?_,
      .natural ⟨rfl, rfl⟩ rfl (Numeral.digits_decimal_toDigits _ _)⟩
    simp [Numeral.text, Numeral.fractionText, Numeral.powerText, write]
  | negative k =>
    refine ⟨⟨true, Nat.toDigits 10 (k.val + 1), [], none⟩, Numeral.wellFormed_toDigits _ _, ?_,
      .negative ⟨rfl, rfl⟩ rfl (Numeral.digits_decimal_toDigits _ _)⟩
    simp [Numeral.text, Numeral.fractionText, Numeral.powerText, write]
  | double x =>
    obtain ⟨d, hdetermined, hwrite⟩ := x.exists_write
    obtain ⟨n, hn⟩ := Numeral.exists_spells d
    obtain ⟨count, hdecimal⟩ := hn.decimal_eq
    refine ⟨n.withSign x.negative, ⟨hn.wellFormed.1, hn.wellFormed.2, hn.wellFormed.3,
      hn.wellFormed.4⟩, ?_, .double hn.not_isInteger rfl ?_⟩
    · rw [Numeral.text_withSign hn.negative, hn.text_eq]
      exact hwrite.symm
    · have hsame : (n.withSign x.negative).decimal = n.decimal := rfl
      rw [hsame, hdecimal, Decimal.determinedBy_mul_pow]
      exact hdetermined

/-- A number is told from its text and from what follows it. -/
theorem write_append_inj {a b : Number} {rest rest' : List Char} (hrest : EndsNumber rest)
    (hrest' : EndsNumber rest') (h : a.write ++ rest = b.write ++ rest') :
    a = b ∧ rest = rest' := by
  obtain ⟨n, hn, hntext, hna⟩ := a.exists_numeral
  obtain ⟨n', hn', hntext', hnb⟩ := b.exists_numeral
  rw [← hntext, ← hntext'] at h
  obtain ⟨rfl, rfl⟩ := Numeral.text_append_inj hn hn' hrest hrest' h
  exact ⟨hna.unique hnb, rfl⟩

end Number

end Certification
