import Certification.Proofs.Assertion.Satisfied
import Certification.Proofs.Check.Faults

/-!
# Shapes of targets

Whether a kind applies to a target is decided twice: from the family of the kind before the check,
and where the check takes from the target what it examines. Every check takes it before it reads a
parameter, and takes what its family examines; so both decisions are the same, and comparing the
shapes first changes nothing.
-/

namespace Certification

namespace AssertionKind

variable {kind : AssertionKind} {target : Target}

/-! ### Targets of another shape -/

private theorem onWorkflow_of_ne (h : .workflow ≠ target.shape)
    (check : WorkflowAst → ParseStatus → CheckResult) :
    kind.onWorkflow target check = .error (kind.mismatch target) := by
  cases target with
  | workflow ast status => exact absurd rfl h
  | metadata _ => rfl
  | runtime _ => rfl

private theorem onMetadata_of_ne (h : .metadata ≠ target.shape)
    (check : ResolverContract → CheckResult) :
    kind.onMetadata target check = .error (kind.mismatch target) := by
  cases target with
  | workflow _ _ => rfl
  | metadata contract => exact absurd rfl h
  | runtime _ => rfl

private theorem onRuntime_of_ne (h : .runtime ≠ target.shape) (check : Observation → Bool) :
    kind.onRuntime target check = .error (kind.mismatch target) := by
  cases target with
  | workflow _ _ => rfl
  | metadata _ => rfl
  | runtime observation => exact absurd rfl h

private theorem check_of_shape_ne (h : kind.shape ≠ target.shape) (a : Assertion) :
    kind.check target a = .error (kind.mismatch target) := by
  cases kind with
  | allowedResolversListed | resolverNamesNormalized | workflowNamePresent | workflowReturnValues
  | workflowReturnValuesEmpty | noParseWarnings | stepType | stepSaveAs | stepFailurePolicies
  | containsWarning | statusGreaterThan => exact onWorkflow_of_ne h _
  | resolverHasField | resolverInputsValid | resolverOutputsValid | fieldNamesNormalized
  | resolverFailuresValid => exact onMetadata_of_ne h _
  | resolverCallable | failureCodeDeclared | rejectsMissingRequiredInput
  | retryWithinDeclaredLimit | outputIsObject | outputFieldsDeclared | deterministicOutput
  | noGlobalMutation => exact onRuntime_of_ne h _

/-! ### Both decisions -/

private theorem checkShaped_eq (kind : AssertionKind) (target : Target) (a : Assertion) :
    kind.checkShaped target a = kind.check target a := by
  rw [checkShaped]
  split
  · rfl
  · next h => exact (check_of_shape_ne h a).symm

private theorem fault_cases {a : Assertion} {fault : AssertionError}
    (h : kind.check target a = .error fault) :
    kind.shape ≠ target.shape ∧ fault = .incompatibleTarget kind target.shape ∨
      kind.shape = target.shape ∧ kind.ParameterFault fault := by
  by_cases hs : kind.shape = target.shape
  · exact .inr ⟨hs, failsOnly_check kind hs a fault h⟩
  · rw [check_of_shape_ne hs] at h
    exact .inl ⟨hs, (Except.error.inj h).symm⟩

private theorem shape_eq_of_check_eq_ok {a : Assertion} {b : Bool}
    (h : kind.check target a = .ok b) : kind.family.shape = target.shape := by
  by_cases hs : kind.shape = target.shape
  · exact hs
  · rw [check_of_shape_ne hs] at h
    cases h

/-- The shapes need not be compared before a check: the check says the same by itself. It says that
the target has another shape exactly when this is so, whatever the parameters of the assertion are;
every other fault is one of a parameter, and arises only where the shapes agree. So a check comes to
a result, and an assertion of the kind can be satisfied, only at a target that the family of the kind
examines. -/
theorem checkShaped_redundant (kind : AssertionKind) (target : Target) (a : Assertion) :
    kind.checkShaped target a = kind.check target a ∧
      (kind.check target a = .error (.incompatibleTarget kind target.shape) ↔
        kind.shape ≠ target.shape) ∧
      (∀ fault, kind.check target a = .error fault →
        kind.shape ≠ target.shape ∧ fault = .incompatibleTarget kind target.shape ∨
          kind.shape = target.shape ∧ kind.ParameterFault fault) ∧
      (∀ b, kind.check target a = .ok b → kind.family.shape = target.shape) ∧
      (a.kind = kind.name → a.IsSatisfied target → kind.family.shape = target.shape) := by
  refine ⟨checkShaped_eq kind target a, ⟨fun h ↦ ?_, fun hs ↦ check_of_shape_ne hs a⟩,
    fun fault h ↦ fault_cases h, fun b h ↦ shape_eq_of_check_eq_ok h, fun hkind hsatisfied ↦ ?_⟩
  · rcases fault_cases h with ⟨hs, -⟩ | ⟨-, hparameter⟩
    · exact hs
    · cases hparameter
  · rw [Assertion.isSatisfied_iff_of_kind hkind, checkShaped_eq] at hsatisfied
    exact shape_eq_of_check_eq_ok hsatisfied

/-- An assertion about the type of a step that says neither which step nor which type. -/
def unstatedStepType : Assertion := .new "S" "step_type"

/-- At a declaration the shape is what is wrong, and at a workflow a missing parameter. -/
theorem checkShaped_redundant_unstated :
    stepType.shape ≠ (Target.metadata ⟨.null⟩).shape ∧
      stepType.check (.metadata ⟨.null⟩) unstatedStepType =
        .error (.incompatibleTarget .stepType .metadata) ∧
      stepType.checkShaped (.metadata ⟨.null⟩) unstatedStepType =
        .error (.incompatibleTarget .stepType .metadata) ∧
      ¬ unstatedStepType.IsSatisfied (.metadata ⟨.null⟩) ∧
      stepType.check (.workflow .empty ⟨[], []⟩) unstatedStepType =
        .error (.missingParameter .stepType .stepIndex) := by
  have hs : stepType.shape ≠ (Target.metadata ⟨.null⟩).shape := by decide
  obtain ⟨hsame, hshape, -, -, hfamily⟩ :=
    checkShaped_redundant .stepType (.metadata ⟨.null⟩) unstatedStepType
  exact ⟨hs, hshape.mpr hs, hsame.trans (hshape.mpr hs), fun h ↦ hs (hfamily rfl h), rfl⟩

end AssertionKind

end Certification
