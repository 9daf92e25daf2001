import Certification.Proofs.Workflow.Document

/-!
# Fields of a printed workflow

The fields of a parser's output that assertions read, with the value that a document prints for each
and the shape that is declared for it. A field of another shape is malformed, and reads as if it had
not been printed; the policies of a step are the one field that can also be read from a value of a
shape that is not the declared one.
-/

namespace Certification

namespace Json

/-- What is not a string has no text. -/
theorem string?_eq_none {j : Json} (h : j.isString = false) : j.string? = none := by
  simpa [isString] using h

/-- The texts of a list of values are there when the values are these texts. -/
theorem mapM_string?_eq_some_iff {items : List Json} {texts : List String} :
    items.mapM string? = some texts ↔ items = texts.map .string := by
  induction items generalizing texts with
  | nil => cases texts <;> simp
  | cons j rest ih =>
    rw [List.mapM_cons]
    constructor
    · intro h
      obtain ⟨text, ht, hrest⟩ := Option.bind_eq_some_iff.mp h
      obtain ⟨others, ho, he⟩ := Option.bind_eq_some_iff.mp hrest
      cases j with
      | string s =>
        cases ht
        cases he
        rw [ih.mp ho, List.map_cons]
      | _ => cases ht
    · intro h
      cases texts with
      | nil => cases h
      | cons text others =>
        rw [List.map_cons, List.cons.injEq] at h
        rw [h.1, ih.mpr h.2]
        rfl

/-- A list of nothing but strings is a list of texts. -/
theorem all_isString_iff {items : List Json} :
    items.all isString = true ↔ ∃ texts : List String, items = texts.map .string := by
  constructor
  · intro h
    induction items with
    | nil => exact ⟨[], rfl⟩
    | cons j rest ih =>
      rw [List.all_cons, Bool.and_eq_true] at h
      obtain ⟨texts, rfl⟩ := ih h.2
      cases j with
      | string s => exact ⟨s :: texts, rfl⟩
      | _ => cases h.1
  · rintro ⟨texts, rfl⟩
    simp [isString, string?]

private theorem mapM_string?_eq_none {items : List Json} (h : items.all isString = false) :
    items.mapM string? = none := by
  cases hm : items.mapM string? with
  | none => rfl
  | some texts =>
    rw [all_isString_iff.mpr ⟨texts, mapM_string?_eq_some_iff.mp hm⟩] at h
    cases h

end Json

namespace WorkflowAst

/-- The value that was printed for a field of a workflow: what stands under its key in an object, or
at its place in an array that is no longer than the record. -/
def printed? (key : String) (place : Nat) : Json → Option Json
  | .object entries => entries.lookup key
  | .array items => if items.length ≤ 4 then items[place]? else none
  | _ => none

/-- A workflow is read from what was printed for its fields. -/
theorem ofJson_eq_ofFields (j : Json) :
    ofJson j =
      ofFields (printed? "name" 0 j) (printed? "allowedResolvers" 1 j) (printed? "steps" 2 j)
        (printed? "returnValues" 3 j) := by
  cases j with
  | array items =>
    simp only [ofJson, printed?]
    split <;> rfl
  | _ => rfl

/-- The value that was printed for the step at a position. -/
def printedStep? (position : Nat) (ast : Json) : Option Json :=
  ((printed? "steps" 2 ast).bind Json.array?).bind (·[position]?)

private theorem step?_ofJson (ast : Json) (position : Nat) :
    (ofJson ast).step? position = (printedStep? position ast).map WorkflowStep.ofJson := by
  rw [ofJson_eq_ofFields, step?, if_pos (Int.natCast_nonneg position), Int.toNat_natCast]
  simp only [ofFields, stepsOf, printedStep?, List.getElem?_map]
  cases (printed? "steps" 2 ast).bind Json.array? <;> rfl

/-- An array of anything but strings reads as one without strings, and so does what is no array. -/
theorem strings_of_malformed {j : Json} (h : j.array?.any (·.all Json.isString) = false) :
    strings (some j) = [] := by
  unfold strings
  cases hj : j.array? with
  | none => simp [hj]
  | some items =>
    rw [hj, Option.any_some] at h
    simp [hj, Json.mapM_string?_eq_none h]

end WorkflowAst

namespace WorkflowStep

private theorem stepType_ofJson (j : Json) :
    (ofJson j).stepType = (j.get? "type").bind Json.string? := by
  cases j <;> rfl

private theorem saveAs_ofJson (j : Json) :
    (ofJson j).saveAs = (j.get? "saveAs").bind Json.string? := by
  cases j <;> rfl

private theorem failurePolicies_ofJson (j : Json) :
    (ofJson j).failurePolicies =
      (j.get? "failurePolicies").bind fun printed ↦ printed.object?.bind policies? := by
  cases j with
  | object entries => exact Option.bind_assoc _ _ _
  | _ => rfl

end WorkflowStep

/-- What is no array holds no warnings. -/
theorem ParseStatus.warningsOf_of_malformed {j : Json} (h : j.array?.isSome = false) :
    warningsOf j = [] := by
  cases j with
  | array items => cases h
  | _ => rfl

/-- A field of a parser's output; those of steps belong to the step at a position. -/
inductive ParserField where
  | name
  | allowedResolvers
  | returnValues
  | warnings
  | stepType (position : Nat)
  | stepSaveAs (position : Nat)
  | stepFailurePolicies (position : Nat)
  deriving DecidableEq, Repr

namespace ParserField

/-- The position of the step that a field belongs to. -/
def position? : ParserField → Option Nat
  | .stepType position | .stepSaveAs position | .stepFailurePolicies position => some position
  | .name | .allowedResolvers | .returnValues | .warnings => none

/-- The value that was printed for a field in a document. -/
def printed? (document : Json) : ParserField → Option Json
  | .name => (document.get? "ast").bind (WorkflowAst.printed? "name" 0)
  | .allowedResolvers => (document.get? "ast").bind (WorkflowAst.printed? "allowedResolvers" 1)
  | .returnValues => (document.get? "ast").bind (WorkflowAst.printed? "returnValues" 3)
  | .warnings => ParseStatus.printedWarnings? document
  | .stepType position =>
    ((document.get? "ast").bind (WorkflowAst.printedStep? position)).bind (Json.get? "type")
  | .stepSaveAs position =>
    ((document.get? "ast").bind (WorkflowAst.printedStep? position)).bind (Json.get? "saveAs")
  | .stepFailurePolicies position =>
    ((document.get? "ast").bind (WorkflowAst.printedStep? position)).bind
      (Json.get? "failurePolicies")

/-- Whether a value has the shape that is declared for a field: a string, an array of strings, an
array, or an object that holds objects. -/
def accepts : ParserField → Json → Bool
  | .name | .stepType _ | .stepSaveAs _ => Json.isString
  | .allowedResolvers | .returnValues => fun j ↦ j.array?.any (·.all Json.isString)
  | .warnings => fun j ↦ j.array?.isSome
  | .stepFailurePolicies _ => fun j ↦ j.object?.any (·.all fun e ↦ e.2.isObject)

/-- A value was printed for a field that is neither null nor of the declared shape. -/
structure Malformed (document : Json) (field : ParserField) (j : Json) : Prop where
  printed : field.printed? document = some j
  ne_null : j ≠ .null
  rejected : field.accepts j = false

end ParserField

namespace ParseOutput.ReadOff

variable {output : ParseOutput} {document : Json}

/-- The workflow is read from what was printed for its fields. -/
theorem ast_eq_ofFields (h : output.ReadOff document) :
    output.ast =
      .ofFields (ParserField.name.printed? document) (ParserField.allowedResolvers.printed? document)
        ((document.get? "ast").bind (WorkflowAst.printed? "steps" 2))
        (ParserField.returnValues.printed? document) := by
  rw [h.ast]
  simp only [ParserField.printed?]
  cases document.get? "ast" with
  | none => rfl
  | some ast => exact WorkflowAst.ofJson_eq_ofFields ast

/-- The name that is read is the text that was printed. -/
theorem name (h : output.ReadOff document) :
    output.ast.name = (ParserField.name.printed? document).bind Json.string? :=
  congrArg WorkflowAst.name h.ast_eq_ofFields

/-- The allowed resolvers that are read are the strings that were printed. -/
theorem allowedResolvers (h : output.ReadOff document) :
    output.ast.allowedResolvers =
      WorkflowAst.strings (ParserField.allowedResolvers.printed? document) :=
  congrArg WorkflowAst.allowedResolvers h.ast_eq_ofFields

/-- The returned values that are read are the strings that were printed. -/
theorem returnValues (h : output.ReadOff document) :
    output.ast.returnValues =
      WorkflowAst.strings (ParserField.returnValues.printed? document) :=
  congrArg WorkflowAst.returnValues h.ast_eq_ofFields

/-- The step at a position is read from the value that was printed for it. -/
theorem step? (h : output.ReadOff document) (position : Nat) :
    output.ast.step? position =
      ((document.get? "ast").bind (WorkflowAst.printedStep? position)).map
        WorkflowStep.ofJson := by
  rw [h.ast]
  cases document.get? "ast" with
  | none => simp [WorkflowAst.step?, WorkflowAst.empty]
  | some ast => exact WorkflowAst.step?_ofJson ast position

private theorem step?_bind (h : output.ReadOff document) (position : Nat) {α : Type} {key : String}
    {field : WorkflowStep → Option α} {read : Json → Option α}
    (hfield : ∀ j, field (WorkflowStep.ofJson j) = (j.get? key).bind read) :
    (output.ast.step? position).bind field =
      (((document.get? "ast").bind (WorkflowAst.printedStep? position)).bind (Json.get? key)).bind
        read := by
  rw [h.step?]
  cases (document.get? "ast").bind (WorkflowAst.printedStep? position) with
  | none => rfl
  | some step => exact hfield step

/-- The type of a step that is read is the text that was printed. -/
theorem stepType (h : output.ReadOff document) (position : Nat) :
    (output.ast.step? position).bind WorkflowStep.stepType =
      ((ParserField.stepType position).printed? document).bind Json.string? :=
  h.step?_bind position WorkflowStep.stepType_ofJson

/-- The name under which a step saves its result, as it is read, is the text that was printed. -/
theorem saveAs (h : output.ReadOff document) (position : Nat) :
    (output.ast.step? position).bind WorkflowStep.saveAs =
      ((ParserField.stepSaveAs position).printed? document).bind Json.string? :=
  h.step?_bind position WorkflowStep.saveAs_ofJson

/-- The policies of a step that are read are those of the object that was printed. -/
theorem failurePolicies (h : output.ReadOff document) (position : Nat) :
    (output.ast.step? position).bind WorkflowStep.failurePolicies =
      ((ParserField.stepFailurePolicies position).printed? document).bind
        fun j ↦ j.object?.bind WorkflowStep.policies? :=
  h.step?_bind position WorkflowStep.failurePolicies_ofJson

end ParseOutput.ReadOff

end Certification
