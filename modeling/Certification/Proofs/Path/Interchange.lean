import Certification.Proofs.Json.Entries
import Certification.Proofs.Path.Display
import Certification.Proofs.Path.Walk

/-!
# Indices in brackets and behind points

A position can be spelled as an index in brackets or as a key, by its digits. On an object the index
acts as this key; on an array the key acts as this index; and the digits of a number never ask for a
length. So a step leads where the key with its name leads, and what a path finds depends on the names
of its steps only. Objects inside each other tell any two other paths apart.
-/

namespace Certification

namespace Segment

/-- An index of the step fits 64 bits. -/
def Fits : Segment → Prop
  | .key _ => True
  | .index n => n < Path.indexLimit

/-- The step spelled as a key. -/
def pointed (s : Segment) : Segment := .key s.name

private theorem WellFormed.fits {s : Segment} (h : s.WellFormed) : s.Fits := by
  cases s with
  | key name => trivial
  | index n => exact h

private theorem toList_name_index (n : Nat) :
    (index n).name.toList = Nat.toDigits 10 n := Nat.toList_repr

private theorem digits_name_index (n : Nat) :
    (index n).name.toList ≠ [] ∧ ∀ c ∈ (index n).name.toList, c.isDigit = true := by
  rw [toList_name_index]
  exact ⟨Nat.toDigits_ne_nil, fun c hc ↦ Nat.isDigit_of_mem_toDigits (by decide) (by decide) hc⟩

private theorem wellFormed_pointed_index (n : Nat) : (index n).pointed.WellFormed := by
  obtain ⟨hne, hdigits⟩ := digits_name_index n
  refine ⟨fun hempty ↦ hne (by rw [hempty]; rfl), fun c hc ↦ ?_⟩
  have hdigit := hdigits c hc
  have hother (d : Char) (hd : d.isDigit = false) : c ≠ d := by
    rintro rfl
    rw [hd] at hdigit
    cases hdigit
  simp [Path.isKeyChar, hother '.' rfl, hother '[' rfl, hother ']' rfl]

end Segment

namespace Path

/-- The names of the steps. -/
def names (p : Path) : List String := p.segments.map Segment.name

/-- Every index of the path fits 64 bits. -/
def IndicesFit (p : Path) : Prop := ∀ s ∈ p.segments, s.Fits

variable {s : Segment} {segments : List Segment}

/-! ### A step -/

private theorem indexOfKey?_of_digits {key : String} (hne : key.toList ≠ [])
    (hdigits : ∀ c ∈ key.toList, c.isDigit = true)
    (hfits : Nat.ofDigitChars 10 key.toList 0 < indexLimit) :
    indexOfKey? key = some (Nat.ofDigitChars 10 key.toList 0) := by
  have hsign (rest : List Char) : key.toList ≠ '+' :: rest := by
    intro h
    have hplus := hdigits '+' (h ▸ List.mem_cons_self)
    cases hplus
  unfold indexOfKey?
  split
  · next rest h => exact absurd h (hsign rest)
  · simp [hne, List.all_eq_true.mpr hdigits, hfits]

private theorem indexOfKey?_name_index {n : Nat} (h : n < indexLimit) :
    indexOfKey? (Segment.index n).name = some n := by
  obtain ⟨hne, hdigits⟩ := Segment.digits_name_index n
  have hvalue : Nat.ofDigitChars 10 (Segment.index n).name.toList 0 = n := by
    rw [Segment.toList_name_index, Nat.ofDigitChars_ten_toDigits]
  rw [indexOfKey?_of_digits hne hdigits (hvalue.symm ▸ h), hvalue]

private theorem pointed_index_ne_lengthStep (n : Nat) : (Segment.index n).pointed ≠ lengthStep := by
  intro h
  have hname : (Segment.index n).name = "length" := Segment.key.inj h
  have hdigit := (Segment.digits_name_index n).2 'l' (by rw [hname]; decide)
  cases hdigit

private theorem computedLength?_of_ne (h : s ≠ lengthStep) (j : Json) :
    computedLength? s j = none := by
  unfold computedLength?
  split
  · exact absurd rfl h
  · exact absurd rfl h
  · rfl

private theorem step_pointed (h : s.Fits) (j : Json) : step s.pointed j = step s j := by
  cases s with
  | key name => rfl
  | index n =>
    rw [step, computedLength?_of_ne (pointed_index_ne_lengthStep n)]
    cases j with
    | array items =>
      have hposition : indexOfKey? (Segment.index n).name = some n := indexOfKey?_name_index h
      simp only [Segment.pointed, child?, hposition]
      rfl
    | _ => rfl

/-! ### A run of steps -/

private theorem follow_map_pointed (h : ∀ s ∈ segments, s.Fits) (root : Json) :
    follow (segments.map Segment.pointed) root = follow segments root := by
  induction segments generalizing root with
  | nil => rfl
  | cons s rest ih =>
    obtain ⟨hs, hrest⟩ := List.forall_mem_cons.mp h
    rw [List.map_cons, follow_cons, follow_cons, step_pointed hs]
    exact Option.bind_congr fun j _ ↦ ih hrest j

private theorem follow_index_eq {n : Nat} (h : n < indexLimit) (before after : List Segment)
    (root : Json) : follow (before ++ .index n :: after) root =
      follow (before ++ .key (toString n) :: after) root := by
  have hstep (j : Json) : step (.index n) j = step (.key (toString n)) j :=
    (step_pointed (s := .index n) h j).symm
  rw [follow_append, follow_append]
  refine Option.bind_congr fun j _ ↦ ?_
  rw [follow_cons, follow_cons, hstep]

private theorem IndicesFit.lookup_eq {p : Path} (h : p.IndicesFit) (root : Json) :
    p.lookup root = follow (p.names.map .key) root := by
  rw [lookup, ← follow_map_pointed h, names, List.map_map]
  rfl

/-- Objects inside each other, each with one key, around null. -/
def nest : List String → Json
  | [] => .null
  | name :: rest => .object [(name, nest rest)]

/-- Null is found inside the objects by the steps with the names of their keys, and by no others. -/
theorem follow_nest_eq_null_iff {names : List String} :
    follow segments (nest names) = some .null ↔ segments.map Segment.name = names := by
  induction segments generalizing names with
  | nil => cases names <;> simp [follow, nest]
  | cons s rest ih =>
    rw [follow_cons]
    cases names with
    | nil =>
      have hnone : step s (nest []) = none := by
        cases s <;> simp [nest, step, computedLength?, child?]
      simp [hnone]
    | cons name names =>
      rw [nest, step_object]
      by_cases hname : s.name = name
      · rw [hname, List.lookup_cons_self]
        simp [hname, ih]
      · rw [Json.lookup_cons_of_ne hname]
        simp [hname]

/-- Two paths find the same in every value exactly when the names of their steps are the same. -/
theorem forall_lookup_eq_iff {p q : Path} (hp : p.IndicesFit) (hq : q.IndicesFit) :
    (∀ root, p.lookup root = q.lookup root) ↔ p.names = q.names := by
  constructor
  · intro h
    have hself : p.lookup (nest p.names) = some .null := follow_nest_eq_null_iff.mpr rfl
    rw [h] at hself
    exact (follow_nest_eq_null_iff.mp hself).symm
  · intro h root
    rw [hp.lookup_eq, hq.lookup_eq, h]

/-- Brackets and points are interchangeable. Wherever in a path an index that fits stands, the key of
its digits can stand instead, and the other way round: nothing else is found in any value, and the
one path can be spelled when the other one can, the index in brackets and the key behind a point.
This is all that can be changed: two paths find the same in every value exactly when their steps have
the same names. -/
theorem index_key_interchangeable :
    (∀ (before after : List Segment) (n : Nat), n < indexLimit →
      let bracketed : Path := ⟨before ++ .index n :: after⟩
      let behindPoint : Path := ⟨before ++ .key (toString n) :: after⟩
      (∀ root, bracketed.lookup root = behindPoint.lookup root) ∧
        (bracketed.WellFormed ↔ behindPoint.WellFormed) ∧
        (bracketed.WellFormed → parse bracketed.display = .ok bracketed ∧
          parse behindPoint.display = .ok behindPoint)) ∧
    ∀ p q : Path, p.IndicesFit → q.IndicesFit →
      ((∀ root, p.lookup root = q.lookup root) ↔ p.names = q.names) := by
  refine ⟨fun before after n hn ↦ ?_, fun p q hp hq ↦ forall_lookup_eq_iff hp hq⟩
  intro bracketed behindPoint
  have hspelled : bracketed.WellFormed ↔ behindPoint.WellFormed := by
    have hindex : (Segment.index n).WellFormed := hn
    have hkey : (Segment.key (toString n)).WellFormed := Segment.wellFormed_pointed_index n
    simp only [bracketed, behindPoint, WellFormed, List.forall_mem_append, List.forall_mem_cons,
      hindex, hkey]
  exact ⟨follow_index_eq hn before after, hspelled,
    fun h ↦ ⟨h.parse_display, (hspelled.mp h).parse_display⟩⟩

/-- A value with an array inside, whose keys are digits where they can be. -/
def numberedValue : Json := .object [("7", .array [.null, .string "sum"])]

/-- The same text is found whether a position stands in brackets or behind a point, also below an
index that meets an object. Digits with a zero in front are not the digits of the index. -/
theorem index_key_interchangeable_numberedValue :
    parse "[7][1]" = .ok ⟨[.index 7, .index 1]⟩ ∧ parse "[7].1" = .ok ⟨[.index 7, .key "1"]⟩ ∧
      lookup ⟨[.index 7, .index 1]⟩ numberedValue = some (.string "sum") ∧
      lookup ⟨[.index 7, .key "1"]⟩ numberedValue = some (.string "sum") ∧
      ∃ root, lookup ⟨[.key "07"]⟩ root ≠ lookup ⟨[.index 7]⟩ root := by
  obtain ⟨hexchange, hnames⟩ := index_key_interchangeable
  have hseven : (Segment.index 7).WellFormed := (by decide : 7 < indexLimit)
  have hone : 1 < indexLimit := by decide
  obtain ⟨hlookup, -, hparse⟩ := hexchange [.index 7] [] 1 hone
  obtain ⟨hbracketed, hpoint⟩ :=
    hparse (List.forall_mem_cons.mpr ⟨hseven, List.forall_mem_singleton.mpr hone⟩)
  have hfound : lookup ⟨[.index 7, .index 1]⟩ numberedValue = some (.string "sum") := by decide
  refine ⟨hbracketed, hpoint, hfound, (hlookup numberedValue).symm.trans hfound, ?_⟩
  by_contra! hall
  have hsame := (hnames ⟨[.key "07"]⟩ ⟨[.index 7]⟩ (List.forall_mem_singleton.mpr trivial)
    (List.forall_mem_singleton.mpr hseven.fits)).mp hall
  exact absurd hsame (by decide)

end Path

end Certification
