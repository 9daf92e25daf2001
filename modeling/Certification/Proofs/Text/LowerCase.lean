import Certification.Text.LowerCase

/-!
# Lower case of a part of a text

Every character but a capital sigma has a lower-case form of its own, so only capital sigmas may
make a difference between the lower-case form that a part takes in its place and the one that it has
alone. They make one exactly when one of them ends a word there and not here, or the other way
round: `lowerWithin_eq_lowerWithin_iff`.
-/

namespace Certification.Text

variable {before before' part after after' : List Char}

/-- Whether a capital sigma ends a word, given what stands before it in reverse order and what
stands after it. -/
def endsWord (before after : List Char) : Bool := startsCased before && !startsCased after

/-- Lower-case form of a part of a text, given what stands before it in reverse order and what
stands after it. -/
def lowerWithin : List Char → List Char → List Char → List Char
  | _, [], _ => []
  | before, c :: cs, after =>
    let lowered :=
      if c = 'Σ' then
        if endsWord before (cs ++ after) then ['ς'] else ['σ']
      else lowerChar c
    lowered ++ lowerWithin (c :: before) cs after

private theorem lowerAfter_eq_lowerWithin (before part : List Char) :
    lowerAfter before part = lowerWithin before part [] := by
  induction part generalizing before with
  | nil => rfl
  | cons c cs ih => rw [lowerAfter, lowerWithin, ih, List.append_nil]; rfl

private theorem lowerWithin_append (before part rest after : List Char) :
    lowerWithin before (part ++ rest) after =
      lowerWithin before part (rest ++ after) ++
        lowerWithin (part.reverse ++ before) rest after := by
  induction part generalizing before with
  | nil => rfl
  | cons c cs ih =>
    rw [List.cons_append, lowerWithin, lowerWithin, ih, List.append_assoc, List.append_assoc,
      List.reverse_cons, List.append_assoc]
    rfl

private theorem lowerCase_append (before part after : String) :
    lowerCase (before ++ part ++ after) =
      lowerWithin [] before.toList (part.toList ++ after.toList) ++
        lowerWithin before.toList.reverse part.toList after.toList ++
          lowerWithin (part.toList.reverse ++ before.toList.reverse) after.toList [] := by
  rw [lowerCase, lowerAfter_eq_lowerWithin, String.toList_append, String.toList_append,
    lowerWithin_append, lowerWithin_append]
  simp

/-! ### Capital sigmas -/

/-- What holds of every way to split a text at a capital sigma, in terms of the first character. -/
theorem forall_split_cons_iff {c : Char} {cs : List Char} {P : List Char → List Char → Prop} :
    (∀ u v, c :: cs = u ++ 'Σ' :: v → P u v) ↔
      (c = 'Σ' → P [] cs) ∧ ∀ u v, cs = u ++ 'Σ' :: v → P (c :: u) v := by
  constructor
  · intro h
    refine ⟨?_, fun u v hcs ↦ h (c :: u) v (congrArg (c :: ·) hcs)⟩
    rintro rfl
    exact h [] cs rfl
  · rintro ⟨hhead, htail⟩ u v hcs
    cases u with
    | nil =>
      obtain ⟨rfl, rfl⟩ := List.cons.inj hcs
      exact hhead rfl
    | cons c' u =>
      obtain ⟨rfl, rfl⟩ := List.cons.inj hcs
      exact htail u v rfl

/-- A part has one lower-case form in two places exactly when the same of its capital sigmas end a
word. -/
theorem lowerWithin_eq_lowerWithin_iff :
    lowerWithin before part after = lowerWithin before' part after' ↔
      ∀ u v, part = u ++ 'Σ' :: v →
        endsWord (u.reverse ++ before) (v ++ after) =
          endsWord (u.reverse ++ before') (v ++ after') := by
  induction part generalizing before before' with
  | nil => simp [lowerWithin]
  | cons c cs ih =>
    rw [lowerWithin, lowerWithin, forall_split_cons_iff]
    simp only [List.reverse_cons, List.append_assoc, List.singleton_append, ← ih]
    by_cases hc : c = 'Σ'
    · -- The two forms of a sigma differ, so equal texts start with the same one.
      subst hc
      cases hends : endsWord before (cs ++ after) <;>
        cases hends' : endsWord before' (cs ++ after') <;> simp [hends, hends']
    · simp [hc]

/-- Each capital sigma of a part ends a word in its place exactly when it does so in the part
alone. -/
def KeepsSigmas (before part after : String) : Prop :=
  ∀ u v, part.toList = u ++ 'Σ' :: v →
    endsWord (u.reverse ++ before.toList.reverse) (v ++ after.toList) = endsWord u.reverse v

/-- A part is lowered in its place as it is alone exactly when it keeps its capital sigmas. -/
theorem lowerWithin_eq_lowerCase_iff {before part after : String} :
    lowerWithin before.toList.reverse part.toList after.toList = lowerCase part ↔
      KeepsSigmas before part after := by
  rw [lowerCase, lowerAfter_eq_lowerWithin, lowerWithin_eq_lowerWithin_iff]
  simp only [List.append_nil, KeepsSigmas]

/-- The lower-case form of a part that keeps its capital sigmas occurs in that of the text. -/
theorem occursIn_of_keepsSigmas {before part after : String} (h : KeepsSigmas before part after) :
    occursIn (lowerCase part) (lowerCase (before ++ part ++ after)) = true := by
  rw [occursIn_iff, lowerCase_append, lowerWithin_eq_lowerCase_iff.mpr h]
  exact ⟨_, _, rfl⟩

/-- A part without a capital sigma has none to lose. -/
theorem keepsSigmas_of_not_mem {part : String} (h : 'Σ' ∉ part.toList) (before after : String) :
    KeepsSigmas before part after := by
  intro u v hpart
  rw [hpart] at h
  exact absurd (List.mem_append_right u List.mem_cons_self) h

private theorem startsCased_append {cs ds : List Char} (h : startsCased ds = false) :
    startsCased (cs ++ ds) = startsCased cs := by
  unfold startsCased at h ⊢
  rw [List.dropWhile_append]
  cases cs.dropWhile fun c ↦ inRanges caseIgnorableRanges c.toNat with
  | nil => exact h
  | cons c rest => rfl

/-- A part keeps its capital sigmas when no cased letter stands next to it. -/
theorem keepsSigmas_of_startsCased {before after : String}
    (hbefore : startsCased before.toList.reverse = false)
    (hafter : startsCased after.toList = false) (part : String) :
    KeepsSigmas before part after := by
  intro u v _
  rw [endsWord, endsWord, startsCased_append hbefore, startsCased_append hafter]

end Certification.Text
