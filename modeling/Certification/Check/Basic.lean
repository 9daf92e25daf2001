import Certification.Check.Metadata
import Certification.Check.Runtime
import Certification.Check.Workflow
import Certification.Target

/-!
# Checking an assertion

The check of each kind, applied to a target. `AssertionKind.check` finds out about a target of the
wrong shape where the check needs it; `AssertionKind.checkShaped` compares the shapes first.
-/

namespace Certification

namespace AssertionKind

/-- A target of the wrong shape (`mismatch`). -/
def mismatch (kind : AssertionKind) (target : Target) : AssertionError :=
  .incompatibleTarget kind target.shape

/-- Applies a check of a parsed workflow (`workflow`). -/
def onWorkflow (kind : AssertionKind) (target : Target)
    (check : WorkflowAst → ParseStatus → CheckResult) : CheckResult :=
  match target with
  | .workflow ast status => check ast status
  | _ => .error (kind.mismatch target)

/-- Applies a check of a declaration (`contract`). -/
def onMetadata (kind : AssertionKind) (target : Target)
    (check : ResolverContract → CheckResult) : CheckResult :=
  match target with
  | .metadata contract => check contract
  | _ => .error (kind.mismatch target)

/-- Applies a check of an observation (`runtime_context`). -/
def onRuntime (kind : AssertionKind) (target : Target) (check : Observation → Bool) :
    CheckResult :=
  match target with
  | .runtime observation => .ok (check observation)
  | _ => .error (kind.mismatch target)

/-- Checks an assertion of a kind against a target (`checks::evaluate`). -/
def check (kind : AssertionKind) (target : Target) (a : Assertion) : CheckResult :=
  match kind with
  | .allowedResolversListed =>
    kind.onWorkflow target fun ast _ ↦ WorkflowCheck.allowedResolversListed ast a
  | .resolverNamesNormalized =>
    kind.onWorkflow target fun ast _ ↦ .ok (WorkflowCheck.resolverNamesNormalized ast)
  | .workflowNamePresent =>
    kind.onWorkflow target fun ast _ ↦ WorkflowCheck.workflowNamePresent ast a
  | .workflowReturnValues | .workflowReturnValuesEmpty =>
    kind.onWorkflow target fun ast _ ↦ WorkflowCheck.workflowReturnValues kind ast a
  | .noParseWarnings =>
    kind.onWorkflow target fun _ status ↦ WorkflowCheck.noParseWarnings status a
  | .stepType => kind.onWorkflow target fun ast _ ↦ WorkflowCheck.stepType ast a
  | .stepSaveAs => kind.onWorkflow target fun ast _ ↦ WorkflowCheck.stepSaveAs ast a
  | .stepFailurePolicies =>
    kind.onWorkflow target fun ast _ ↦ WorkflowCheck.stepFailurePolicies ast a
  | .containsWarning =>
    kind.onWorkflow target fun _ status ↦ WorkflowCheck.containsWarning status a
  | .statusGreaterThan =>
    kind.onWorkflow target fun _ status ↦ WorkflowCheck.statusGreaterThan status a
  | .resolverHasField => kind.onMetadata target fun c ↦ MetadataCheck.resolverHasField c a
  | .resolverInputsValid =>
    kind.onMetadata target fun c ↦ .ok (MetadataCheck.resolverInputsValid c)
  | .resolverOutputsValid =>
    kind.onMetadata target fun c ↦ .ok (MetadataCheck.resolverOutputsValid c)
  | .fieldNamesNormalized => kind.onMetadata target fun c ↦ MetadataCheck.fieldNamesNormalized c a
  | .resolverFailuresValid =>
    kind.onMetadata target fun c ↦ .ok (MetadataCheck.resolverFailuresValid c)
  | .resolverCallable => kind.onRuntime target RuntimeCheck.resolverCallable
  | .failureCodeDeclared => kind.onRuntime target RuntimeCheck.failureCodeDeclared
  | .rejectsMissingRequiredInput => kind.onRuntime target RuntimeCheck.rejectsMissingRequiredInput
  | .retryWithinDeclaredLimit => kind.onRuntime target RuntimeCheck.retryWithinDeclaredLimit
  | .outputIsObject => kind.onRuntime target RuntimeCheck.outputIsObject
  | .outputFieldsDeclared => kind.onRuntime target RuntimeCheck.outputFieldsDeclared
  | .deterministicOutput => kind.onRuntime target RuntimeCheck.deterministicOutput
  | .noGlobalMutation => kind.onRuntime target RuntimeCheck.noGlobalMutation

/-- Checks an assertion of a kind against a target of the shape that the kind examines
(`AssertionRegistry::evaluate`). -/
def checkShaped (kind : AssertionKind) (target : Target) (a : Assertion) : CheckResult :=
  if kind.shape = target.shape then kind.check target a else .error (kind.mismatch target)

end AssertionKind

end Certification
