import Certification.Check.Basic
import Certification.Proofs.Chain

/-!
# Faults of checks

At a target of the shape that a kind examines, a check goes wrong for one reason only: a parameter of
the assertion is missing or invalid, and the fault names the kind of the assertion.
`AssertionKind.failsOnly_check` says so for every kind, from the same law for each way in which a
check reads its parameters.
-/

namespace Certification

namespace AssertionKind

/-- The fault of an assertion of a kind that lacks a parameter or has an invalid one. -/
inductive ParameterFault (kind : AssertionKind) : AssertionError → Prop where
  | missing (parameter : Parameter) : ParameterFault kind (.missingParameter kind parameter)
  | invalid (parameter : Parameter) (reason : String) :
      ParameterFault kind (.invalidParameter kind parameter reason)

end AssertionKind

open AssertionKind

namespace Assertion

variable (kind : AssertionKind)

private theorem failsOnly_require {α : Type} (parameter : Parameter) (o : Option α) :
    FailsOnly kind.ParameterFault (require kind parameter o) := by
  cases o with
  | none => exact .error (.missing parameter)
  | some a => exact .ok a

private theorem failsOnly_expectedStrings (a : Assertion) :
    FailsOnly kind.ParameterFault (a.expectedStrings kind) := by
  refine .bind (failsOnly_require kind .expected a.expected) fun expected ↦ ?_
  split
  · exact .ok _
  · exact .error (.invalid _ _)

end Assertion

open Assertion

namespace WorkflowCheck

variable (ast : WorkflowAst) (status : ParseStatus) (a : Assertion)

private theorem failsOnly_expectedWarnings :
    FailsOnly (ParameterFault .noParseWarnings) (expectedWarnings a) := by
  unfold expectedWarnings
  split
  · exact .ok _
  · split
    · exact .ok _
    · exact .error (.invalid _ _)

private theorem failsOnly_stepText (kind : AssertionKind) (field : WorkflowStep → Option String) :
    FailsOnly kind.ParameterFault (stepText kind field ast a) := by
  refine .bind (failsOnly_require kind .stepIndex a.stepIndex) fun position ↦ ?_
  exact .bind (failsOnly_require kind .expected a.expected) fun expected ↦ .ok _

private theorem failsOnly_stepFailurePolicies :
    FailsOnly (ParameterFault .stepFailurePolicies) (stepFailurePolicies ast a) := by
  refine .bind (failsOnly_require _ .stepIndex a.stepIndex) fun position ↦ ?_
  refine .bind (failsOnly_require _ .expected a.expected) fun expected ↦ ?_
  split
  · exact .error (.invalid _ _)
  · exact .ok _

private theorem failsOnly_statusGreaterThan :
    FailsOnly (ParameterFault .statusGreaterThan) (statusGreaterThan status a) := by
  refine .bind (failsOnly_require _ .path a.path) fun expression ↦ ?_
  split
  · exact .error (.invalid _ _)
  · refine .bind (failsOnly_require _ .expected a.expected) fun expected ↦ ?_
    split
    · exact .error (.invalid _ _)
    · exact .ok _

end WorkflowCheck

namespace AssertionKind

variable {kind : AssertionKind} {target : Target}

private theorem failsOnly_onWorkflow {check : WorkflowAst → ParseStatus → CheckResult}
    (hs : .workflow = target.shape)
    (h : ∀ ast status, FailsOnly kind.ParameterFault (check ast status)) :
    FailsOnly kind.ParameterFault (kind.onWorkflow target check) := by
  cases target with
  | workflow ast status => exact h ast status
  | metadata _ => cases hs
  | runtime _ => cases hs

private theorem failsOnly_onMetadata {check : ResolverContract → CheckResult}
    (hs : .metadata = target.shape)
    (h : ∀ contract, FailsOnly kind.ParameterFault (check contract)) :
    FailsOnly kind.ParameterFault (kind.onMetadata target check) := by
  cases target with
  | workflow _ _ => cases hs
  | metadata contract => exact h contract
  | runtime _ => cases hs

private theorem failsOnly_onRuntime (check : Observation → Bool) (hs : .runtime = target.shape) :
    FailsOnly kind.ParameterFault (kind.onRuntime target check) := by
  cases target with
  | workflow _ _ => cases hs
  | metadata _ => cases hs
  | runtime observation => exact .ok _

/-- At a target of the shape that the kind examines, a check goes wrong only in the parameters of
the assertion. -/
theorem failsOnly_check (kind : AssertionKind) {target : Target} (hs : kind.shape = target.shape)
    (a : Assertion) : FailsOnly kind.ParameterFault (kind.check target a) := by
  cases kind with
  | allowedResolversListed | workflowReturnValues | workflowReturnValuesEmpty =>
    exact failsOnly_onWorkflow hs fun ast _ ↦ .bind (a.failsOnly_expectedStrings _) fun _ ↦ .ok _
  | resolverNamesNormalized => exact failsOnly_onWorkflow hs fun ast _ ↦ .ok _
  | workflowNamePresent =>
    exact failsOnly_onWorkflow hs fun ast _ ↦
      .bind (failsOnly_require _ .expected a.expected) fun _ ↦ .ok _
  | noParseWarnings =>
    exact failsOnly_onWorkflow hs fun _ status ↦
      .bind (WorkflowCheck.failsOnly_expectedWarnings a) fun _ ↦ .ok _
  | stepType | stepSaveAs =>
    exact failsOnly_onWorkflow hs fun ast _ ↦ WorkflowCheck.failsOnly_stepText ast a _ _
  | stepFailurePolicies =>
    exact failsOnly_onWorkflow hs fun ast _ ↦ WorkflowCheck.failsOnly_stepFailurePolicies ast a
  | containsWarning =>
    exact failsOnly_onWorkflow hs fun _ status ↦
      .bind (failsOnly_require _ .expectedSubstring a.expectedSubstring) fun _ ↦ .ok _
  | statusGreaterThan =>
    exact failsOnly_onWorkflow hs fun _ status ↦
      WorkflowCheck.failsOnly_statusGreaterThan status a
  | resolverHasField =>
    exact failsOnly_onMetadata hs fun c ↦ .bind (failsOnly_require _ .field a.field) fun _ ↦
      .bind (failsOnly_require _ .expected a.expected) fun _ ↦ .ok _
  | fieldNamesNormalized =>
    exact failsOnly_onMetadata hs fun c ↦
      .bind (failsOnly_require _ .field a.field) fun _ ↦ .ok _
  | resolverInputsValid | resolverOutputsValid | resolverFailuresValid =>
    exact failsOnly_onMetadata hs fun c ↦ .ok _
  | resolverCallable | failureCodeDeclared | rejectsMissingRequiredInput
  | retryWithinDeclaredLimit | outputIsObject | outputFieldsDeclared | deterministicOutput
  | noGlobalMutation => exact failsOnly_onRuntime _ hs

end AssertionKind

end Certification
