import Certification.Proofs.Assertion.Satisfied
import Certification.Proofs.Check.Workflow
import Certification.Proofs.Workflow.Reprint

/-!
# Steps on their own

The steps of a workflow are read one by one, and an item that is no step is read as a step about
which nothing is known. So every item keeps its place, and what an assertion says of the step at a
position depends on the item that was printed there and on no other. A position may be negative or
lie behind the last step; there is no step then, and an assertion about it does not hold.
-/

namespace Certification

private theorem Assertion.requireStepIndex_bind_congr {α : Type} {a : Assertion}
    {kind : AssertionKind}
    {f g : Int → Except AssertionError α} (h : ∀ k, a.stepIndex = some k → f k = g k) :
    (a.requireStepIndex kind >>= f) = (a.requireStepIndex kind >>= g) := by
  rw [requireStepIndex]
  cases hk : a.stepIndex with
  | none => rfl
  | some k => exact h k hk

namespace WorkflowCheck

variable {ast ast' : WorkflowAst} {a : Assertion} {kind : AssertionKind}

private theorem stepText_congr {field : WorkflowStep → Option String}
    (h : ∀ k, a.stepIndex = some k → ast.step? k = ast'.step? k) :
    stepText kind field ast a = stepText kind field ast' a := by
  apply Assertion.requireStepIndex_bind_congr
  intro k hk
  rw [h k hk]

private theorem stepFailurePolicies_congr
    (h : ∀ k, a.stepIndex = some k → ast.step? k = ast'.step? k) :
    stepFailurePolicies ast a = stepFailurePolicies ast' a := by
  apply Assertion.requireStepIndex_bind_congr
  intro k hk
  rw [h k hk]

variable {k : Int} {expected : Json}

private theorem stepText_of_absent {field : WorkflowStep → Option String}
    (hk : a.stepIndex = some k) (he : a.expected = some expected) (h : ast.step? k = none) :
    stepText kind field ast a = .ok false := by
  simp [stepText, Assertion.requireStepIndex, Assertion.requireExpected, Assertion.require, hk, he,
    h, bind, Except.bind, pure, Except.pure]

private theorem stepFailurePolicies_of_absent (hk : a.stepIndex = some k)
    (he : a.expected = some expected)
    (hobject : expected.isObject = true) (h : ast.step? k = none) :
    stepFailurePolicies ast a = .ok false := by
  obtain ⟨wanted, hwanted⟩ := Option.isSome_iff_exists.mp hobject
  simp [stepFailurePolicies, Assertion.requireStepIndex, Assertion.requireExpected,
    Assertion.require, hk, he, hwanted, h, bind, Except.bind, pure, Except.pure]

end WorkflowCheck

namespace AssertionKind

/-- The kinds of assertions about the step at a position. -/
def stepKinds : List AssertionKind := [.stepType, .stepSaveAs, .stepFailurePolicies]

variable {kind : AssertionKind} {ast ast' : WorkflowAst} {a : Assertion}

private theorem checkShaped_congr_of_step? (hkind : kind ∈ stepKinds)
    (h : ∀ k, a.stepIndex = some k → ast.step? k = ast'.step? k) (status status' : ParseStatus) :
    kind.checkShaped (.workflow ast status) a = kind.checkShaped (.workflow ast' status') a := by
  simp only [stepKinds, List.mem_cons, List.not_mem_nil, or_false] at hkind
  rcases hkind with rfl | rfl | rfl
  · exact WorkflowCheck.stepText_congr h
  · exact WorkflowCheck.stepText_congr h
  · exact WorkflowCheck.stepFailurePolicies_congr h

private theorem checkShaped_of_absent {k : Int} {expected : Json} (hkind : kind ∈ stepKinds)
    (hk : a.stepIndex = some k) (he : a.expected = some expected)
    (hobject : kind = .stepFailurePolicies → expected.isObject = true) (h : ast.step? k = none)
    (status : ParseStatus) : kind.checkShaped (.workflow ast status) a = .ok false := by
  simp only [stepKinds, List.mem_cons, List.not_mem_nil, or_false] at hkind
  rcases hkind with rfl | rfl | rfl
  · exact WorkflowCheck.stepText_of_absent hk he h
  · exact WorkflowCheck.stepText_of_absent hk he h
  · exact WorkflowCheck.stepFailurePolicies_of_absent hk he (hobject rfl) h

end AssertionKind

namespace WorkflowAst

/-- The items that were printed for the steps, if an array was printed. -/
def printedSteps? (document : Json) : Option (List Json) :=
  ((document.get? "ast").bind (printed? "steps" 2)).bind Json.array?

/-- The items that are printed for the steps in a sorted value are sorted. -/
theorem sortedKeys_of_mem_printedSteps {document : Json} {items : List Json}
    (h : document.SortedKeys) (hitems : printedSteps? document = some items) :
    ∀ item ∈ items, item.SortedKeys := by
  obtain ⟨ast, hast, hprinted⟩ :=
    Option.bind_eq_some_iff.mp (Json.bind_array?_eq_some_iff.mp hitems)
  cases sortedKeys_of_printed? (h.of_get? hast) hprinted with
  | array hsorted => exact hsorted

private theorem step?_eq_none_iff {ast : WorkflowAst} {k : Int} :
    ast.step? k = none ↔ k < 0 ∨ (ast.steps.length : Int) ≤ k := by
  unfold step?
  split
  · rw [List.getElem?_eq_none_iff]
    omega
  · simp only [true_iff]
    omega

private theorem step?_of_steps_eq {ast : WorkflowAst} {items : List Json}
    (h : ast.steps = items.map WorkflowStep.ofJson) (i : Nat) :
    ast.step? i = items[i]?.map WorkflowStep.ofJson := by
  rw [step?, if_pos (Int.natCast_nonneg i), Int.toNat_natCast, h, List.getElem?_map]

private theorem step?_congr {ast ast' : WorkflowAst} {items items' : List Json}
    (h : ast.steps = items.map WorkflowStep.ofJson)
    (h' : ast'.steps = items'.map WorkflowStep.ofJson) {k : Int}
    (hsame : ∀ i : Nat, k = i → items[i]? = items'[i]?) : ast.step? k = ast'.step? k := by
  by_cases hk : 0 ≤ k
  · obtain ⟨i, rfl⟩ := Int.eq_ofNat_of_zero_le hk
    rw [step?_of_steps_eq h, step?_of_steps_eq h', hsame i rfl]
  · rw [step?_eq_none_iff.mpr (.inl (not_le.mp hk)), step?_eq_none_iff.mpr (.inl (not_le.mp hk))]

end WorkflowAst

namespace ParseOutput

private theorem ReadOff.steps_eq {output : ParseOutput} {document : Json} {items : List Json}
    (h : output.ReadOff document) (hitems : WorkflowAst.printedSteps? document = some items) :
    output.ast.steps = items.map WorkflowStep.ofJson := by
  rw [h.ast_eq_ofFields, Json.bind_array?_eq_some_iff.mp hitems]
  rfl

/-- A document that prints nothing but items for the steps. -/
def stepsDocument (items : List Json) : Json :=
  .object [("ast", .object [("steps", .array items)])]

/-- The output in a document that prints nothing but items for the steps. -/
def stepsOutput (items : List Json) : ParseOutput where
  ast := { WorkflowAst.empty with steps := items.map WorkflowStep.ofJson }
  status := .ofWarnings []

section

variable {items : List Json} (hs : ∀ item ∈ items, item.SortedKeys)
include hs

/-- A document that prints sorted items for the steps is the value that it holds. -/
theorem toJson?_stepsDocument :
    (Document.ofJson (stepsDocument items)).toJson? = some (stepsDocument items) := by
  apply Document.toJson?_ofJson
  exact .object (List.pairwise_singleton _ _) (List.forall_mem_singleton.mpr
    (.object (List.pairwise_singleton _ _) (List.forall_mem_singleton.mpr (.array hs))))

/-- Whatever the items are, a document that prints them for the steps is read. -/
theorem decode_stepsDocument (origin : Origin) :
    decode origin (.ofJson (stepsDocument items)) = .ok (stepsOutput items) := by
  have hsteps : (Json.object [("steps", .array items)]).SortedKeys :=
    .object (List.pairwise_singleton _ _) (List.forall_mem_singleton.mpr (.array hs))
  have hprinted : (stepsOutput items).PrintedBy [("ast", .object [("steps", .array items)])] :=
    ⟨Nat.le_refl 1, Nat.zero_le 1, rfl, rfl, rfl⟩
  exact hprinted.decode_record (List.forall_mem_singleton.mpr hsteps) origin

end

/-- Assertions about a step are local. Any array of values may be printed for the steps, and a
workflow that is read from one has as many steps as the array has items: the step at a position is
the one that is read when the item there is printed alone, an unknown one if that is no object, and
there is no step at a position that is negative or not below the length. So an assertion about a step says the same of any
two documents whose arrays have the same item at its position, and where no step is, it does not
hold if its parameters are as its kind needs them. -/
theorem stepChecks_local :
    (∀ items : List Json, (∀ item ∈ items, item.SortedKeys) → ∀ origin, ∃ output,
      decode origin (.ofJson (stepsDocument items)) = .ok output ∧
        (Document.ofJson (stepsDocument items)).toJson? = some (stepsDocument items) ∧
        WorkflowAst.printedSteps? (stepsDocument items) = some items) ∧
    ∀ (origin : Origin) (d : Document) (output : ParseOutput) (document : Json) (items : List Json),
      decode origin d = .ok output → d.toJson? = some document →
      WorkflowAst.printedSteps? document = some items →
      output.ast.steps.length = items.length ∧
      (∀ (i : Nat) (item : Json), items[i]? = some item →
        output.ast.step? i = some (WorkflowStep.ofJson item) ∧
          (item.isObject = false → WorkflowStep.ofJson item = .empty) ∧
          ∃ alone, decode origin (.ofJson (stepsDocument [item])) = .ok alone ∧
            alone.ast.steps = [WorkflowStep.ofJson item]) ∧
      (∀ k : Int, output.ast.step? k = none ↔ k < 0 ∨ (items.length : Int) ≤ k) ∧
      ∀ kind ∈ AssertionKind.stepKinds, ∀ a : Assertion,
        (∀ (origin' : Origin) (d' : Document) (output' : ParseOutput) (document' : Json)
          (items' : List Json),
          decode origin' d' = .ok output' → d'.toJson? = some document' →
          WorkflowAst.printedSteps? document' = some items' →
          (∀ i : Nat, a.stepIndex = some (i : Int) → items[i]? = items'[i]?) →
          kind.checkShaped (.ofParseOutput output) a =
            kind.checkShaped (.ofParseOutput output') a) ∧
        ∀ (k : Int) (expected : Json), k < 0 ∨ (items.length : Int) ≤ k → a.stepIndex = some k →
          a.expected = some expected →
          (kind = .stepFailurePolicies → expected.isObject = true) →
          kind.checkShaped (.ofParseOutput output) a = .ok false := by
  have hread {origin : Origin} {d : Document} {output : ParseOutput} {document : Json}
      {items : List Json} (h : decode origin d = .ok output) (hvalue : d.toJson? = some document)
      (hitems : WorkflowAst.printedSteps? document = some items) :
      output.ast.steps = items.map WorkflowStep.ofJson := by
    obtain ⟨document', hvalue', hoff⟩ := exists_toJson?_of_decode h
    obtain rfl : document = document' := Option.some.inj (hvalue.symm.trans hvalue')
    exact hoff.steps_eq hitems
  refine ⟨fun items hs origin ↦ ⟨_, decode_stepsDocument hs origin, toJson?_stepsDocument hs, rfl⟩, ?_⟩
  intro origin d output document items h hvalue hitems
  have hsteps := hread h hvalue hitems
  have hlength : output.ast.steps.length = items.length := by rw [hsteps, List.length_map]
  have habsent (k : Int) : output.ast.step? k = none ↔ k < 0 ∨ (items.length : Int) ≤ k := by
    rw [WorkflowAst.step?_eq_none_iff, hlength]
  refine ⟨hlength, fun i item hitem ↦ ?_, habsent, fun kind hkind a ↦ ⟨?_, ?_⟩⟩
  · have hsorted := WorkflowAst.sortedKeys_of_mem_printedSteps
      (Document.sortedKeys_of_toJson? hvalue) hitems item (List.mem_of_getElem? hitem)
    refine ⟨?_, fun hobject ↦ ?_,
      stepsOutput [item], decode_stepsDocument (List.forall_mem_singleton.mpr hsorted) origin, rfl⟩
    · rw [WorkflowAst.step?_of_steps_eq hsteps, hitem, Option.map_some]
    · cases item with
      | object entries => cases hobject
      | _ => rfl
  · intro origin' d' output' document' items' h' hvalue' hitems' hsame
    refine AssertionKind.checkShaped_congr_of_step? hkind (fun k hk ↦ ?_) _ _
    refine WorkflowAst.step?_congr hsteps (hread h' hvalue' hitems') fun i hi ↦ hsame i ?_
    rw [hk, hi]
  · intro k expected hoff hk he hobject
    exact AssertionKind.checkShaped_of_absent hkind hk he hobject ((habsent k).mpr hoff) _

/-- A step of type sum between items that are no steps. -/
def spoiled : List Json := [.null, .object [("type", .string "sum")], .ofNat 3]

/-- The same step at the same position, behind a step about which nothing is known. -/
def clean : List Json := [.object [], .object [("type", .string "sum")]]

/-- An assertion that the step at a position is of type sum. -/
def sums (position : Int) : Assertion :=
  { Assertion.new "sums" "step_type" with
    stepIndex := some position
    expected := some (.string "sum") }

/-- Whatever stands around it, the step at position 1 is of type sum; there is none at -1. -/
theorem stepChecks_local_spoiled :
    decode .value (.ofJson (stepsDocument spoiled)) = .ok (stepsOutput spoiled) ∧
      (stepsOutput spoiled).ast.step? 0 = some .empty ∧
      AssertionKind.stepType.checkShaped (.ofParseOutput (stepsOutput spoiled)) (sums 1) =
        .ok true ∧
      AssertionKind.stepType.checkShaped (.ofParseOutput (stepsOutput spoiled)) (sums (-1)) =
        .ok false := by
  have hsum : Json.SortedKeys (.object [("type", .string "sum")]) :=
    .object (List.pairwise_singleton _ _) (List.forall_mem_singleton.mpr (.string _))
  have hspoiled : ∀ item ∈ spoiled, item.SortedKeys :=
    List.forall_mem_cons.mpr ⟨.null, List.forall_mem_cons.mpr
      ⟨hsum, List.forall_mem_singleton.mpr (.number _)⟩⟩
  have hclean : ∀ item ∈ clean, item.SortedKeys :=
    List.forall_mem_cons.mpr ⟨.object .nil nofun, List.forall_mem_singleton.mpr hsum⟩
  have hdecode := decode_stepsDocument hspoiled .value
  obtain ⟨-, hall⟩ := stepChecks_local
  obtain ⟨-, hstep, -, hcheck⟩ :=
    hall _ _ _ _ _ hdecode (toJson?_stepsDocument hspoiled) rfl
  obtain ⟨hsame, -⟩ := hcheck .stepType (by decide) (sums 1)
  obtain ⟨-, habsent⟩ := hcheck .stepType (by decide) (sums (-1))
  refine ⟨hdecode, (hstep 0 .null rfl).1, ?_, habsent (-1) _ (by decide) rfl rfl nofun⟩
  calc AssertionKind.stepType.checkShaped (.ofParseOutput (stepsOutput spoiled)) (sums 1)
      = AssertionKind.stepType.checkShaped (.ofParseOutput (stepsOutput clean)) (sums 1) := by
        refine hsame _ _ _ _ _ (decode_stepsDocument hclean .value)
          (toJson?_stepsDocument hclean) rfl fun i hi ↦ ?_
        have heq : (1 : Int) = i := Option.some.inj hi
        obtain rfl : 1 = i := by omega
        rfl
    _ = .ok true := by decide

end ParseOutput

end Certification
