import Certification.Proofs.Path.Grammar

/-!
# Displaying paths

A path is displayed as the expression whose parts are its steps, each spelled in the plainest way:
with a point in front of the keys after the first step, and an index without zeros in front. So the
paths that are read are those whose steps can be spelled, and what is displayed of one is read as
the path.
-/

namespace Certification

namespace Segment

/-- The step can be spelled in an expression. -/
def WellFormed : Segment → Prop
  | .key name => name ≠ "" ∧ ∀ c ∈ name.toList, Path.isKeyChar c = true
  | .index n => n < Path.indexLimit

/-- The plainest spelling of a step. -/
def spelled : Segment → Path.Spelled
  | .key name => .key name.toList
  | .index n => .index (Nat.toDigits 10 n)

/-- The part of a step that follows another one. -/
def part (s : Segment) : Path.Part := ⟨s.spelled.isKey, s.spelled⟩

variable {s : Segment}

private theorem segment_spelled (s : Segment) : s.spelled.segment = s := by
  cases s with
  | key name => simp [spelled, Path.Spelled.segment]
  | index n => simp [spelled, Path.Spelled.segment, Nat.ofDigitChars_ten_toDigits]

/-- A step that can be spelled is spelled well. -/
theorem WellFormed.spelled (h : s.WellFormed) : s.spelled.WellFormed := by
  cases s with
  | key name => exact ⟨by simpa using h.1, h.2⟩
  | index n =>
    refine ⟨Nat.toDigits_ne_nil, fun c hc ↦ ?_, ?_⟩
    · exact Nat.isDigit_of_mem_toDigits (by decide) (by decide) hc
    · rw [Nat.ofDigitChars_ten_toDigits]
      exact h

private theorem text_part (s : Segment) : s.part.text = s.display.toList := by
  cases s with
  | key name => simp [part, spelled, Path.Part.text, Path.Spelled.isKey, Path.Spelled.text, display]
  | index n =>
    simp [part, spelled, Path.Part.text, Path.Spelled.isKey, Path.Spelled.text, display,
      Nat.toList_repr]

end Segment

namespace Path

/-- A well spelled step is one that can be spelled. -/
theorem Spelled.WellFormed.segment {s : Spelled} (h : s.WellFormed) : s.segment.WellFormed := by
  cases s with
  | key name => exact ⟨by simpa using h.1, by simpa using h.2⟩
  | index digits => exact h.2.2

/-- Every step of the path can be spelled. -/
def WellFormed (p : Path) : Prop := ∀ s ∈ p.segments, s.WellFormed

/-- The parts of the expression in which steps are displayed. -/
def partsOf : List Segment → List Part
  | [] => []
  | s :: rest => ⟨false, s.spelled⟩ :: rest.map Segment.part

private theorem segmentsOf_partsOf (segments : List Segment) :
    segmentsOf (partsOf segments) = segments := by
  cases segments with
  | nil => rfl
  | cons s rest =>
    simp [segmentsOf, partsOf, Segment.part, Segment.segment_spelled, Function.comp_def]

private theorem textOf_map_part (segments : List Segment) :
    textOf (segments.map Segment.part) = (String.join (segments.map Segment.display)).toList := by
  simp [textOf, List.flatMap_map, Segment.text_part]

private theorem textOf_partsOf (segments : List Segment) :
    textOf (partsOf segments) = (displaySegments segments).toList := by
  cases segments with
  | nil => rfl
  | cons s rest =>
    have htext : textOf (partsOf (s :: rest)) =
        s.spelled.text ++ textOf (rest.map Segment.part) := List.flatMap_cons
    rw [htext, textOf_map_part]
    cases s with
    | key name => simp [displaySegments, Segment.spelled, Spelled.text]
    | index n =>
      simp [displaySegments, Segment.spelled, Spelled.text, Segment.display, Nat.toList_repr]

private theorem derives_partsOf {segments : List Segment} (h : ∀ s ∈ segments, s.WellFormed) :
    Derives (partsOf segments) (displaySegments segments) := by
  cases segments with
  | nil => exact ⟨rfl, nofun, nofun⟩
  | cons s rest =>
    obtain ⟨hs, hrest⟩ := List.forall_mem_cons.mp h
    refine ⟨textOf_partsOf (s :: rest), fun part hpart ↦ ?_, fun part hpart ↦ ?_⟩
    · obtain rfl : ⟨false, s.spelled⟩ = part := Option.some.inj hpart
      exact ⟨hs.spelled, rfl⟩
    · obtain ⟨s', hs', rfl⟩ := List.mem_map.mp hpart
      exact ⟨(hrest s' hs').spelled, id⟩

namespace WellFormed

variable {p q : Path}

/-- What is displayed of the path is read as the path. -/
theorem parse_display (h : p.WellFormed) : parse p.display = .ok p :=
  parse_eq_ok_iff.mpr ⟨_, derives_partsOf h, segmentsOf_partsOf p.segments⟩

private theorem display_inj (h : p.WellFormed) (h' : q.WellFormed) :
    p.display = q.display ↔ p = q := by
  constructor
  · intro heq
    have hread := h.parse_display
    rw [heq, h'.parse_display] at hread
    exact (Except.ok.inj hread).symm
  · exact congrArg display

end WellFormed

private theorem wellFormed_of_parse {expression : String} {p : Path}
    (h : parse expression = .ok p) : p.WellFormed := by
  obtain ⟨parts, hparts, hsegments⟩ := parse_eq_ok_iff.mp h
  intro s hs
  rw [← hsegments] at hs
  obtain ⟨part, hpart, rfl⟩ := List.mem_map.mp hs
  exact (hparts.wellFormed part hpart).segment

/-- The expression in which the path that an expression names is displayed. -/
def normalize (expression : String) : Except PathFault String := display <$> parse expression

/-- Reading and displaying are inverse to each other between paths whose steps can be spelled and
the expressions in which they are displayed. What is displayed of such a path is read as the path,
and every path that is read is one. So displaying the path of an expression loses nothing: two
expressions are displayed alike exactly when they name the same path, and what is displayed is
displayed as itself. -/
theorem display_parse_inverse :
    (∀ p : Path, p.WellFormed → parse p.display = .ok p) ∧
    (∀ p : Path, p.WellFormed ↔ ∃ expression, parse expression = .ok p) ∧
    (∀ (expression : String) (p : Path), parse expression = .ok p → parse p.display = .ok p) ∧
    (∀ (expression expression' : String) (p p' : Path), parse expression = .ok p →
      parse expression' = .ok p' → (p.display = p'.display ↔ p = p')) ∧
    ∀ expression displayed : String, normalize expression = .ok displayed →
      normalize displayed = .ok displayed := by
  refine ⟨fun p h ↦ h.parse_display, fun p ↦ ⟨fun h ↦ ⟨_, h.parse_display⟩, ?_⟩, ?_, ?_, ?_⟩
  · rintro ⟨expression, h⟩
    exact wellFormed_of_parse h
  · exact fun expression p h ↦ (wellFormed_of_parse h).parse_display
  · exact fun _ _ p p' h h' ↦ (wellFormed_of_parse h).display_inj (wellFormed_of_parse h')
  · intro expression displayed h
    obtain ⟨p, hp, rfl⟩ := map_eq_ok_iff.mp h
    exact map_eq_ok_iff.mpr ⟨p, (wellFormed_of_parse hp).parse_display, rfl⟩

/-- A field of a step. -/
def stepField : Path := ⟨[.key "steps", .index 7, .key "saveAs"]⟩

/-- An index with zeros in front is displayed without them, and a bracket after a point without the
point; and then nothing changes any more. -/
theorem display_parse_inverse_stepField :
    parse "steps.[007].saveAs" = .ok stepField ∧ stepField.display = "steps[7].saveAs" ∧
      stepField.WellFormed ∧ parse "steps[7].saveAs" = .ok stepField ∧
      normalize "steps[7].saveAs" = .ok "steps[7].saveAs" := by
  have hread : parse "steps.[007].saveAs" = .ok stepField := eq_ok_of_toOption (by decide)
  have hspelled : normalize "steps.[007].saveAs" = .ok "steps[7].saveAs" :=
    eq_ok_of_toOption (by decide)
  obtain ⟨-, hwell, hagain, -, hnormal⟩ := display_parse_inverse
  exact ⟨hread, by decide, (hwell stepField).mpr ⟨_, hread⟩, hagain _ _ hread,
    hnormal _ _ hspelled⟩

end Path

end Certification
