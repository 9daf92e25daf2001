import Certification.Path.Lookup

/-!
# Walking along a path

A lookup looks ahead in one place: a computed length counts only where the path ends. But a length
is a number, and no step leads on from a number. So a lookup is a walk that takes each step on its
own, whatever steps come after it, and `Path.lookup_composes` says what follows: a longer path is
looked up by looking up a part of it and then the rest from what was found.
-/

namespace Certification

/-- The length of a value that has one: of an array in items, of a string in characters. -/
def Json.length? : Json → Option Nat
  | .array items => some items.length
  | .string s => some s.length
  | _ => none

/-- The key under which a step leads on in an object. -/
def Segment.name : Segment → String
  | .key name => name
  | .index n => toString n

namespace Path

/-- One path after the other. -/
instance : Append Path := ⟨fun p q ↦ ⟨p.segments ++ q.segments⟩⟩

/-- The step that asks for a length. -/
def lengthStep : Segment := .key "length"

/-- The value that one step leads to: a computed length, or what lies inside. -/
def step (segment : Segment) (j : Json) : Option Json :=
  match computedLength? segment j with
  | some n => some (.ofNat n)
  | none => child? segment j

/-- In an object a step leads to what stands under its name. -/
theorem step_object (segment : Segment) (entries : List (String × Json)) :
    step segment (.object entries) = entries.lookup segment.name := by
  cases segment with
  | key name => simp [step, computedLength?, child?, Segment.name]
  | index n => rfl

private theorem computedLength?_lengthStep (j : Json) :
    computedLength? lengthStep j = j.length? := by
  cases j <;> rfl

private theorem follow_number {segments : List Segment} (h : segments ≠ []) (n : Number) :
    follow segments (.number n) = none := by
  obtain ⟨segment, rest, rfl⟩ := List.exists_cons_of_ne_nil h
  cases segment <;> simp [follow, computedLength?, child?]

/-- The first step is taken whatever comes after it. -/
theorem follow_cons (segment : Segment) (rest : List Segment) (root : Json) :
    follow (segment :: rest) root = (step segment root).bind (follow rest) := by
  rw [follow, step]
  cases computedLength? segment root with
  | none => rfl
  | some n =>
    -- A length is a number, so the rest must be nothing for it to count.
    cases rest with
    | nil => rfl
    | cons next rest => exact (follow_number (List.cons_ne_nil next rest) _).symm

/-- Steps are followed by following some of them and then the others. -/
theorem follow_append (first rest : List Segment) (root : Json) :
    follow (first ++ rest) root = (follow first root).bind (follow rest) := by
  induction first generalizing root with
  | nil => rfl
  | cons segment first ih =>
    rw [List.cons_append, follow_cons, follow_cons, Option.bind_assoc]
    exact Option.bind_congr fun j _ ↦ ih j

/-- A length is found as a number. -/
theorem follow_lengthStep {j : Json} {n : Nat} (h : j.length? = some n) :
    follow [lengthStep] j = some (.ofNat n) := by
  rw [follow, computedLength?_lengthStep, h]
  rfl

/-- Lookups compose. Looking up a path and another one after it is looking up the first one, and the
other one in what was found. So whatever leads to a value that is found is found itself; and where a
value with a length was found, its length is found behind it, and nothing behind its length. -/
theorem lookup_composes (root : Json) :
    (∀ p q : Path, (p ++ q).lookup root = (p.lookup root).bind q.lookup) ∧
    (∀ p q : Path, p.segments <+: q.segments → (q.lookup root).isSome = true →
      (p.lookup root).isSome = true) ∧
    ∀ (p : Path) (found : Json) (n : Nat), p.lookup root = some found → found.length? = some n →
      (p ++ ⟨[lengthStep]⟩).lookup root = some (.ofNat n) ∧
        ∀ q : Path, q.segments ≠ [] → (p ++ ⟨[lengthStep]⟩ ++ q).lookup root = none := by
  have hcompose (p q : Path) : (p ++ q).lookup root = (p.lookup root).bind q.lookup :=
    follow_append p.segments q.segments root
  refine ⟨hcompose, fun p q hprefix hq ↦ ?_, fun p found n hp hn ↦ ?_⟩
  · obtain ⟨rest, hrest⟩ := hprefix
    obtain rfl : p ++ ⟨rest⟩ = q := congrArg Path.mk hrest
    rw [hcompose] at hq
    exact Option.isSome_of_isSome_bind hq
  · have hlength : (p ++ ⟨[lengthStep]⟩).lookup root = some (.ofNat n) := by
      rw [hcompose, hp]
      exact follow_lengthStep hn
    refine ⟨hlength, fun q hq ↦ ?_⟩
    rw [hcompose, hlength]
    exact follow_number hq _

/-- A value with an array and a string inside. -/
def nestedValue : Json := .object [("steps", .array [.string "sum", .null])]

/-- The number of steps is found, the length of the first one too, and nothing behind either. -/
theorem lookup_composes_nestedValue :
    lookup ⟨[.key "steps", .index 0, .key "length"]⟩ nestedValue = some (.ofNat 3) ∧
      lookup ⟨[.key "steps", .index 0]⟩ nestedValue = some (.string "sum") ∧
      lookup ⟨[.key "steps", .key "length", .key "length"]⟩ nestedValue = none := by
  obtain ⟨hcompose, hprefix, hlength⟩ := lookup_composes nestedValue
  have hsteps : lookup ⟨[.key "steps"]⟩ nestedValue = some (.array [.string "sum", .null]) := rfl
  have hfirst : lookup ⟨[.key "steps", .index 0]⟩ nestedValue = some (.string "sum") := by
    have h := hcompose ⟨[.key "steps"]⟩ ⟨[.index 0]⟩
    rw [hsteps] at h
    exact h
  exact ⟨(hlength _ _ 3 hfirst rfl).1, hfirst,
    (hlength _ _ 2 hsteps rfl).2 ⟨[.key "length"]⟩ (List.cons_ne_nil _ _)⟩

end Path

end Certification
