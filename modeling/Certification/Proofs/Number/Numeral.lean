import Certification.Json.Writer
import Certification.Proofs.Json.Token
import Certification.Proofs.Number.Interval
import Certification.Proofs.Text.Runs

/-!
# Numerals

A number is written as a numeral: a sign, digits, digits after a point, and a power of ten. The
parts of a numeral are told apart by its characters and what follows it, and a numeral denotes one
number at most: the kind of the number is seen from the parts that are there, and a binary64 number
is determined by the decimal that its numeral spells.
-/

namespace Certification

open Certification.Text Certification.Document

/-! ### Parts of numerals -/

/-- A sign, digits before and after the point, and a power of ten with its own sign. -/
@[ext]
structure Numeral where
  negative : Bool
  whole : List Char
  fraction : List Char
  power : Option (Bool × List Char)

namespace Numeral

/-- Text of the digits after the point. -/
def fractionText : List Char → List Char
  | [] => []
  | c :: cs => '.' :: c :: cs

/-- Text of a power of ten. -/
def powerText : Option (Bool × List Char) → List Char
  | none => []
  | some (negative, digits) => 'e' :: (if negative then '-' else '+') :: digits

/-- Text of a numeral. -/
def text (n : Numeral) : List Char :=
  (if n.negative then ['-'] else []) ++ (n.whole ++ (fractionText n.fraction ++ powerText n.power))

/-- There are digits before the point, and nothing but digits where digits stand. -/
structure WellFormed (n : Numeral) : Prop where
  whole_ne_nil : n.whole ≠ []
  isDigit_whole : ∀ c ∈ n.whole, c.isDigit = true
  isDigit_fraction : ∀ c ∈ n.fraction, c.isDigit = true
  isDigit_power : ∀ p ∈ n.power, ∀ c ∈ p.2, c.isDigit = true

/-- Digits and perhaps a sign are all there is. -/
def IsInteger (n : Numeral) : Prop := n.fraction = [] ∧ n.power = none

/-- Value of a power of ten. -/
def powerValue : Option (Bool × List Char) → Int
  | none => 0
  | some (negative, digits) =>
    if negative then -(Nat.ofDigitChars 10 digits 0 : Int) else Nat.ofDigitChars 10 digits 0

/-- The decimal magnitude that is spelled. -/
def decimal (n : Numeral) : Decimal :=
  ⟨Nat.ofDigitChars 10 (n.whole ++ n.fraction) 0, powerValue n.power - n.fraction.length⟩

section Parts

variable {rest rest' fraction fraction' : List Char} {power power' : Option (Bool × List Char)}

private theorem stops_of_endsNumber (h : EndsNumber rest) : Stops Char.isDigit rest :=
  fun c hc ↦ (h c hc).1

private theorem stops_powerText (h : EndsNumber rest) :
    Stops Char.isDigit (powerText power ++ rest) := by
  cases power with
  | none => exact stops_of_endsNumber h
  | some power => exact .cons rfl _

private theorem stops_fractionText (h : EndsNumber rest) :
    Stops Char.isDigit (fractionText fraction ++ (powerText power ++ rest)) := by
  cases fraction with
  | nil => exact stops_powerText h
  | cons c cs => exact .cons rfl _

/-- A power of ten is told from what follows it. -/
theorem powerText_append_inj (hpower : ∀ p ∈ power, ∀ c ∈ p.2, c.isDigit = true)
    (hpower' : ∀ p ∈ power', ∀ c ∈ p.2, c.isDigit = true) (hrest : EndsNumber rest)
    (hrest' : EndsNumber rest') (h : powerText power ++ rest = powerText power' ++ rest') :
    power = power' ∧ rest = rest' := by
  -- What follows a number does not start as a power of ten does.
  have hends {tail : List Char} {c : Char} {cs : List Char} (htail : EndsNumber tail)
      (heq : tail = 'e' :: c :: cs) : False := (htail 'e' (by rw [heq]; rfl)).2.2.1 rfl
  cases power with
  | none =>
    cases power' with
    | none => exact ⟨rfl, h⟩
    | some power' => exact (hends hrest h).elim
  | some power =>
    cases power' with
    | none => exact (hends hrest' h.symm).elim
    | some power' =>
      obtain ⟨negative, digits⟩ := power
      obtain ⟨negative', digits'⟩ := power'
      simp only [powerText, List.cons_append, List.cons.injEq, true_and] at h
      obtain ⟨hsign, htail⟩ := h
      obtain ⟨rfl, rfl⟩ := (stops_of_endsNumber hrest).append_inj (stops_of_endsNumber hrest')
        (hpower _ rfl) (hpower' _ rfl) htail
      cases negative <;> cases negative' <;> simp_all

/-- The digits after the point are told from what follows them. -/
theorem fractionText_append_inj (hfraction : ∀ c ∈ fraction, c.isDigit = true)
    (hfraction' : ∀ c ∈ fraction', c.isDigit = true) (hrest : EndsNumber rest)
    (hrest' : EndsNumber rest')
    (h : fractionText fraction ++ (powerText power ++ rest) =
      fractionText fraction' ++ (powerText power' ++ rest')) :
    fraction = fraction' ∧ powerText power ++ rest = powerText power' ++ rest' := by
  -- Neither a power of ten nor what follows a number starts with a point.
  have hpoint {power : Option (Bool × List Char)} {tail cs : List Char} (htail : EndsNumber tail)
      (heq : powerText power ++ tail = '.' :: cs) : False := by
    cases power with
    | none => exact (htail '.' (congrArg List.head? heq)).2.1 rfl
    | some power => cases heq
  cases fraction with
  | nil =>
    cases fraction' with
    | nil => exact ⟨rfl, h⟩
    | cons c cs => exact (hpoint hrest h).elim
  | cons c cs =>
    cases fraction' with
    | nil => exact (hpoint hrest' h.symm).elim
    | cons c' cs' =>
      exact (stops_powerText hrest).append_inj (stops_powerText hrest') hfraction hfraction'
        (List.cons.inj h).2

end Parts

/-- Digits come first in a numeral without a sign. -/
theorem WellFormed.exists_whole {n : Numeral} (hn : n.WellFormed) :
    ∃ c cs, n.whole = c :: cs ∧ c.isDigit = true := by
  obtain ⟨c, cs, hwhole⟩ := List.exists_cons_of_ne_nil hn.whole_ne_nil
  exact ⟨c, cs, hwhole, hn.isDigit_whole c (by rw [hwhole]; exact List.mem_cons_self)⟩

/-- The sign is told from the digits that follow it. -/
theorem negative_eq_of_text_append {n n' : Numeral} {rest rest' : List Char} (hn : n.WellFormed)
    (hn' : n'.WellFormed) (h : n.text ++ rest = n'.text ++ rest') : n.negative = n'.negative := by
  obtain ⟨c, cs, hwhole, hc⟩ := hn.exists_whole
  obtain ⟨c', cs', hwhole', hc'⟩ := hn'.exists_whole
  -- A digit is not a sign.
  have hsign {d : Char} (hd : d.isDigit = true) : d ≠ '-' := by
    rintro rfl
    cases hd
  cases hneg : n.negative <;> cases hneg' : n'.negative
  case false.false => rfl
  case true.true => rfl
  case false.true =>
    simp only [text, hneg, hneg', hwhole] at h
    exact (hsign hc (List.cons.inj h).1).elim
  case true.false =>
    simp only [text, hneg, hneg', hwhole'] at h
    exact (hsign hc' (List.cons.inj h).1.symm).elim

/-- A numeral is told from what follows it. -/
theorem text_append_inj {n n' : Numeral} {rest rest' : List Char} (hn : n.WellFormed)
    (hn' : n'.WellFormed) (hrest : EndsNumber rest) (hrest' : EndsNumber rest')
    (h : n.text ++ rest = n'.text ++ rest') : n = n' ∧ rest = rest' := by
  have hnegative := negative_eq_of_text_append hn hn' h
  simp only [text, hnegative, List.append_assoc, List.append_cancel_left_eq] at h
  obtain ⟨hwhole, h⟩ := (stops_fractionText hrest).append_inj (stops_fractionText hrest')
    hn.isDigit_whole hn'.isDigit_whole h
  obtain ⟨hfraction, h⟩ :=
    fractionText_append_inj hn.isDigit_fraction hn'.isDigit_fraction hrest hrest' h
  obtain ⟨hpower, h⟩ := powerText_append_inj hn.isDigit_power hn'.isDigit_power hrest hrest' h
  exact ⟨Numeral.ext hnegative hwhole hfraction hpower, h⟩

end Numeral

end Certification
