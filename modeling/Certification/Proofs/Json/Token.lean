import Certification.Json.Decode
import Certification.Proofs.Text.Lines
import Mathlib.Tactic.SplitIfs

/-!
# Tokens

Strings and integers in a text. What is written of a string or an integer is read back, up to what
follows it; and a token that is read, whoever wrote it, ends on the line on which it starts, since
no token holds a line feed.
-/

namespace Certification

open Certification.Text

/-! ### Strings -/

namespace Json

/-- A character is written with a short escape, or in hexadecimal, or as it is. -/
theorem escapeChar_cases (c : Char) :
    (∃ e, escapeChar c = ['\\', e] ∧ e ≠ 'u' ∧ Document.shortEscape? e = some c) ∨
      (escapeChar c = ['\\', 'u', '0', '0', hexDigit (c.toNat / 16), hexDigit (c.toNat % 16)] ∧
        c.toNat < 0x20) ∨
      (escapeChar c = [c] ∧ 0x20 ≤ c.toNat ∧ c ≠ '"' ∧ c ≠ '\\') := by
  unfold escapeChar
  split_ifs with hquote hbackslash hb hf hn hr ht hlow
  · exact .inl ⟨'"', rfl, by decide, by rw [hquote]; rfl⟩
  · exact .inl ⟨'\\', rfl, by decide, by rw [hbackslash]; rfl⟩
  · exact .inl ⟨'b', rfl, by decide, by rw [hb]; rfl⟩
  · exact .inl ⟨'f', rfl, by decide, by rw [hf]; rfl⟩
  · exact .inl ⟨'n', rfl, by decide, by rw [hn]; rfl⟩
  · exact .inl ⟨'r', rfl, by decide, by rw [hr]; rfl⟩
  · exact .inl ⟨'t', rfl, by decide, by rw [ht]; rfl⟩
  · exact .inr (.inl ⟨rfl, hlow⟩)
  · exact .inr (.inr ⟨rfl, by omega, hquote, hbackslash⟩)

end Json

namespace Document

private theorem codeUnit?_hexDigit {n : Nat} (h : n < 0x20) :
    codeUnit? '0' '0' (Json.hexDigit (n / 16)) (Json.hexDigit (n % 16)) = some n := by
  have hall : ∀ n < 0x20,
      codeUnit? '0' '0' (Json.hexDigit (n / 16)) (Json.hexDigit (n % 16)) = some n := by decide
  exact hall n h

private theorem joinPieces_control {c : Char} (h : c.toNat < 0x20) (pieces : List Piece) :
    joinPieces none (.unit c.toNat :: pieces) = (joinPieces none pieces).map (c :: ·) := by
  have hhigh : isHighSurrogate c.toNat = false := by
    simp only [isHighSurrogate, Bool.and_eq_false_iff, decide_eq_false_iff_not]
    omega
  have hsecond : isLowSurrogate c.toNat = false := by
    simp only [isLowSurrogate, Bool.and_eq_false_iff, decide_eq_false_iff_not]
    omega
  rw [joinPieces, hhigh, hsecond]
  simp only [Char.ofNat_toNat, Bool.false_eq_true, if_false]

/-- What is written of a text is scanned up to the closing quote, and its pieces are joined to the
text. -/
theorem scanString_escaped (cs rest : List Char) :
    ∃ pieces, scanString (cs.flatMap Json.escapeChar ++ '"' :: rest) = some (pieces, rest) ∧
      joinPieces none pieces = some cs := by
  induction cs with
  | nil => exact ⟨[], by rw [List.flatMap_nil, List.nil_append, scanString], rfl⟩
  | cons c cs ih =>
    obtain ⟨pieces, hscan, hjoin⟩ := ih
    rw [List.flatMap_cons, List.append_assoc]
    generalize cs.flatMap Json.escapeChar ++ '"' :: rest = after at hscan ⊢
    rcases Json.escapeChar_cases c with
      ⟨e, he, hu, hshort⟩ | ⟨he, hlow⟩ | ⟨he, hhigh, hquote, hback⟩
    · refine ⟨.char c :: pieces, ?_, by rw [joinPieces, hjoin]; rfl⟩
      rw [he, List.cons_append, List.cons_append, List.nil_append, scanString, hshort, hscan]
      · rfl
      · exact fun _ _ _ _ _ h ↦ absurd h hu
    · refine ⟨.unit c.toNat :: pieces, ?_, by rw [joinPieces_control hlow, hjoin]; rfl⟩
      simp only [he, List.cons_append, List.nil_append, scanString, codeUnit?_hexDigit hlow, hscan]
      rfl
    · refine ⟨.char c :: pieces, ?_, by rw [joinPieces, hjoin]; rfl⟩
      rw [he, List.cons_append, List.nil_append, scanString, if_neg (by omega), hscan]
      · rfl
      · exact hquote
      · exact fun _ _ _ _ _ h ↦ absurd h hback
      · exact fun _ _ h ↦ absurd h hback

/-- A string is read back after its opening quote. -/
theorem readString_escaped (s : String) (rest : List Char) :
    readString (s.toList.flatMap Json.escapeChar ++ '"' :: rest) = (.string s, rest) := by
  obtain ⟨pieces, hscan, hjoin⟩ := scanString_escaped s.toList rest
  rw [readString, hscan]
  simp only [textOf?, hjoin, Option.map_some, String.ofList_toList]

/-! ### Integers -/

/-- Nothing at the start of the text goes on with a number. -/
def EndsNumber (rest : List Char) : Prop :=
  ∀ c ∈ rest.head?, c.isDigit = false ∧ c ≠ '.' ∧ c ≠ 'e' ∧ c ≠ 'E'

/-- A number ends at the end of the text. -/
theorem endsNumber_nil : EndsNumber [] := nofun

private theorem digitValue_digitChar {d : Nat} (h : d < 10) : digitValue d.digitChar = d := by
  have hall : ∀ d < 10, digitValue (Nat.digitChar d) = d := by decide
  exact hall d h

/-- The digits of a number of 64 bits all fit. -/
theorem foldl_addWhole_toDigits {n : Nat} (h : n < 2 ^ 64) :
    (Nat.toDigits 10 n).foldl Digits.addWhole ⟨0, 0, false⟩ = ⟨n, 0, false⟩ := by
  induction n using Nat.strongRecOn with
  | ind n ih =>
    have hadd (m d : Nat) (hd : d < 10) (hm : m * 10 + d < 2 ^ 64) :
        Digits.addWhole ⟨m, 0, false⟩ d.digitChar = ⟨m * 10 + d, 0, false⟩ := by
      simp only [Digits.addWhole, digitValue_digitChar hd, Bool.false_or, decide_eq_true_eq]
      rw [if_neg (by omega)]
    by_cases hn : n < 10
    · rw [Nat.toDigits_of_lt_base hn, List.foldl_cons, List.foldl_nil, hadd 0 n hn (by omega)]
      simp
    · have hstep := hadd (n / 10) (n % 10) (Nat.mod_lt _ (by decide)) (by omega)
      rw [Nat.toDigits_of_base_le (by decide) (by omega), List.foldl_append,
        ih (n / 10) (by omega) (by omega), List.foldl_cons, List.foldl_nil, hstep]
      congr 1
      omega

private theorem head?_toDigits_ne_zero {n : Nat} (h : n ≠ 0) :
    (Nat.toDigits 10 n).head? ≠ some '0' := by
  induction n using Nat.strongRecOn with
  | ind n ih =>
    by_cases hn : n < 10
    · have hall : ∀ d < 10, d ≠ 0 → (Nat.digitChar d) ≠ '0' := by decide
      rw [Nat.toDigits_of_lt_base hn, List.head?_cons]
      exact fun heq ↦ hall n hn h (Option.some.inj heq)
    · have hfirst := ih (n / 10) (by omega) (by omega)
      rw [Nat.toDigits_of_base_le (by decide) (by omega), List.head?_append]
      cases hd : (Nat.toDigits 10 (n / 10)).head? with
      | none => exact absurd (List.head?_eq_none_iff.mp hd) Nat.toDigits_ne_nil
      | some c => rwa [hd] at hfirst

/-- Nothing but digits stands before what ends a number. -/
theorem EndsNumber.dropWhile {rest : List Char} (h : EndsNumber rest) :
    rest.takeWhile Char.isDigit = [] ∧ rest.dropWhile Char.isDigit = rest := by
  cases rest with
  | nil => exact ⟨rfl, rfl⟩
  | cons c rest =>
    have hc := (h c rfl).1
    exact ⟨List.takeWhile_cons_of_neg (by simp [hc]), List.dropWhile_cons_of_neg (by simp [hc])⟩

/-- What ends a number follows the digits at once. -/
theorem EndsNumber.readTail {rest : List Char} (h : EndsNumber rest) (negative : Bool)
    (d : Digits) :
    readTail negative d false rest = (ofNumber? (integerOf? negative d), rest) := by
  unfold Document.readTail
  dsimp only
  split
  · exact absurd rfl (h 'e' rfl).2.2.1
  · exact absurd rfl (h 'E' rfl).2.2.2
  · rfl

/-- An integer is read back after its sign, up to what ends it. -/
theorem readMagnitude_toDigits {n : Nat} (h : n < 2 ^ 64) (negative : Bool) {rest : List Char}
    (hrest : EndsNumber rest) :
    readMagnitude negative (Nat.toDigits 10 n ++ rest) =
      (ofNumber? (integerOf? negative ⟨n, 0, false⟩), rest) := by
  have hdigits : ∀ c ∈ Nat.toDigits 10 n, c.isDigit = true := fun c hc ↦
    Nat.isDigit_of_mem_toDigits (by decide) (by decide) hc
  have hplain : ((Nat.toDigits 10 n).isEmpty ||
      ((Nat.toDigits 10 n).head? == some '0' && 1 < (Nat.toDigits 10 n).length)) = false := by
    rw [List.isEmpty_eq_false_iff.mpr Nat.toDigits_ne_nil, Bool.false_or]
    by_cases hn : n = 0
    · subst hn
      rfl
    · rw [beq_false_of_ne (head?_toDigits_ne_zero hn), Bool.false_and]
  unfold readMagnitude
  dsimp only
  rw [List.takeWhile_append_of_pos hdigits, List.dropWhile_append_of_pos hdigits,
    hrest.dropWhile.1, hrest.dropWhile.2, List.append_nil, hplain, foldl_addWhole_toDigits h,
    if_neg Bool.false_ne_true]
  split
  · exact absurd rfl (hrest '.' rfl).2.1
  · exact hrest.readTail negative _

/-- An integer is read back, up to what ends it. -/
theorem readNumber_write {n : Number} (h : n.toInt?.isSome = true) {rest : List Char}
    (hrest : EndsNumber rest) : readNumber (n.write ++ rest) = (.number n, rest) := by
  cases n with
  | double x => cases h
  | natural n =>
    have hread := readMagnitude_toDigits n.isLt false hrest
    have hvalue : integerOf? false ⟨n.val, 0, false⟩ = some (.natural n) := by
      rw [integerOf?, if_neg Bool.false_ne_true, if_neg Bool.false_ne_true, Number.ofNat?,
        dif_pos n.isLt]
    rw [hvalue] at hread
    rw [Number.write]
    unfold readNumber
    split
    · next tail htail =>
      -- No digit is a sign.
      have hmem : '-' ∈ Nat.toDigits 10 n.val := by
        cases hd : Nat.toDigits 10 n.val with
        | nil => exact absurd hd Nat.toDigits_ne_nil
        | cons c cs =>
          rw [hd, List.cons_append, List.cons.injEq] at htail
          rw [htail.1]
          exact List.mem_cons_self
      have hsign := Nat.isDigit_of_mem_toDigits (by decide) (by decide) hmem
      cases hsign
    · exact hread
  | negative n =>
    have hread := readMagnitude_toDigits (n := n.val + 1) (by omega) true hrest
    have hvalue : integerOf? true ⟨n.val + 1, 0, false⟩ = some (.negative n) := by
      have hn := n.isLt
      rw [integerOf?, if_neg Bool.false_ne_true, if_pos rfl, dif_pos (by dsimp only; omega)]
      simp
    rw [hvalue] at hread
    exact hread

/-! ### Lines -/

/-- No character is written with a line feed. -/
theorem lineFeed_notMem_escapeChar (c : Char) : '\n' ∉ Json.escapeChar c := by
  rcases Json.escapeChar_cases c with ⟨e, he, -, hshort⟩ | ⟨he, hlow⟩ | ⟨he, hhigh, -⟩
  · have hne : '\n' ≠ e := by
      rintro rfl
      cases hshort
    simp [he, hne]
  · have hdigits : ∀ n < 0x20,
        '\n' ∉ ['\\', 'u', '0', '0', Json.hexDigit (n / 16), Json.hexDigit (n % 16)] := by decide
    rw [he]
    exact hdigits c.toNat hlow
  · rw [he, List.mem_singleton]
    rintro rfl
    exact absurd hhigh (by decide)

/-- A string is written on one line. -/
theorem lineFeed_notMem_writeString (s : String) : '\n' ∉ Json.writeString s := by
  have hinner : '\n' ∉ s.toList.flatMap Json.escapeChar := by
    intro hmem
    obtain ⟨c, -, hc⟩ := List.mem_flatMap.mp hmem
    exact lineFeed_notMem_escapeChar c hc
  simp [Json.writeString, hinner]

/-- An integer is written on one line. -/
theorem lineFeed_notMem_writeNumber {n : Number} (h : n.toInt?.isSome = true) :
    '\n' ∉ n.write := by
  have hdigits (n : Nat) : '\n' ∉ Nat.toDigits 10 n := by
    intro hmem
    have hdigit := Nat.isDigit_of_mem_toDigits (by decide) (by decide) hmem
    cases hdigit
  cases n with
  | double x => cases h
  | natural n => exact hdigits n.val
  | negative n =>
    rw [Number.write, List.mem_cons, not_or]
    exact ⟨by decide, hdigits (n.val + 1)⟩

private theorem ne_lineFeed_of_codeUnit? {a b c d : Char} {n : Nat}
    (h : codeUnit? a b c d = some n) : a ≠ '\n' ∧ b ≠ '\n' ∧ c ≠ '\n' ∧ d ≠ '\n' := by
  have hnone : hexDigit? '\n' = none := by decide
  simp only [codeUnit?, bind, Option.bind_eq_some_iff] at h
  obtain ⟨_, ha, _, hb, _, hc, _, hd, -⟩ := h
  refine ⟨?_, ?_, ?_, ?_⟩ <;> rintro rfl
  · cases hnone.symm.trans ha
  · cases hnone.symm.trans hb
  · cases hnone.symm.trans hc
  · cases hnone.symm.trans hd

/-- A string that is closed is closed on its line. -/
theorem sameLine_of_scanString {cs rest : List Char} {pieces : List Piece}
    (h : scanString cs = some (pieces, rest)) : SameLine cs rest := by
  induction cs using scanString.induct generalizing pieces with
  | case1 => rw [scanString] at h; cases h
  | case2 closed =>
    rw [scanString] at h
    cases h
    exact .cons (by decide) (.refl _)
  | case3 a b c d after ih =>
    rw [scanString] at h
    simp only [bind, Option.bind_eq_some_iff] at h
    obtain ⟨n, hn, r, hr, hrest⟩ := h
    cases hrest
    obtain ⟨ha, hb, hc, hd⟩ := ne_lineFeed_of_codeUnit? hn
    exact .cons (by decide) (.cons (by decide) (.cons ha (.cons hb (.cons hc (.cons hd (ih hr))))))
  | case4 e after hu ih =>
    rw [scanString] at h
    · simp only [bind, Option.bind_eq_some_iff] at h
      obtain ⟨c, hc, r, hr, hrest⟩ := h
      cases hrest
      have he : e ≠ '\n' := by
        rintro rfl
        cases hc
      exact .cons (by decide) (.cons he (ih hr))
    · exact hu
  | case5 c after hquote hcode hshort hlow =>
    rw [scanString, if_pos hlow] at h
    · cases h
    · exact hquote
    · exact hcode
    · exact hshort
  | case6 c after hquote hcode hshort hlow ih =>
    rw [scanString, if_neg hlow] at h
    · simp only [bind, Option.bind_eq_some_iff] at h
      obtain ⟨r, hr, hrest⟩ := h
      cases hrest
      have hc : c ≠ '\n' := by
        rintro rfl
        exact hlow (by decide)
      exact .cons hc (ih hr)
    · exact hquote
    · exact hcode
    · exact hshort

/-- A string that is read is over on its line. -/
theorem sameLine_readString {cs : List Char} (h : (readString cs).1 ≠ .broken) :
    SameLine cs (readString cs).2 := by
  unfold readString at h ⊢
  cases hscan : scanString cs with
  | none => exact absurd (by rw [hscan]) h
  | some scanned =>
    obtain ⟨pieces, rest⟩ := scanned
    have hline := sameLine_of_scanString hscan
    dsimp only
    split
    · exact hline
    · exact hline

private theorem sameLine_of_readExponent {cs rest : List Char} {e : Int}
    (h : readExponent cs = some (e, rest)) : SameLine cs rest := by
  unfold readExponent at h
  dsimp only at h
  split at h <;> split at h <;> cases h
  · exact .cons (by decide) (.dropDigits _)
  · exact .cons (by decide) (.dropDigits _)
  · exact .dropDigits _

/-- What follows the digits of a number ends on their line. -/
theorem sameLine_readTail {negative hasFraction : Bool} {d : Digits} {cs : List Char}
    (h : (readTail negative d hasFraction cs).1 ≠ .broken) :
    SameLine cs (readTail negative d hasFraction cs).2 := by
  unfold readTail at h ⊢
  dsimp only at h ⊢
  split at h
  · next rest =>
    cases he : readExponent rest with
    | none => exact absurd (by rw [he]) h
    | some r => exact .cons (by decide) (sameLine_of_readExponent he)
  · next rest =>
    cases he : readExponent rest with
    | none => exact absurd (by rw [he]) h
    | some r => exact .cons (by decide) (sameLine_of_readExponent he)
  · exact .refl _

/-- A magnitude ends on its line. -/
theorem sameLine_readMagnitude {negative : Bool} {cs : List Char}
    (h : (readMagnitude negative cs).1 ≠ .broken) :
    SameLine cs (readMagnitude negative cs).2 := by
  have hdigits := SameLine.dropDigits cs
  unfold readMagnitude at h ⊢
  dsimp only at h ⊢
  split at h
  · exact absurd rfl h
  next hwhole =>
  rw [if_neg hwhole]
  refine hdigits.trans ?_
  split at h
  · next rest hrest =>
    split at h
    · exact absurd rfl h
    · next hfraction =>
      rw [if_neg hfraction]
      refine .trans ?_ (sameLine_readTail h)
      rw [hrest]
      exact .cons (by decide) (.dropDigits rest)
  · exact sameLine_readTail h

/-- A number ends on its line. -/
theorem sameLine_readNumber {cs : List Char} (h : (readNumber cs).1 ≠ .broken) :
    SameLine cs (readNumber cs).2 := by
  unfold readNumber at h ⊢
  split at h
  · exact .cons (by decide) (sameLine_readMagnitude h)
  · exact sameLine_readMagnitude h

end Document

end Certification
