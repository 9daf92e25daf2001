/-!
# Kinds of assertion

The assertions that can be made, each with its name, the family it belongs to and the shape of what
it examines. `AssertionKind.all` is the registry, in its order; a name that is not in it belongs to
no kind.
-/

namespace Certification

/-- The shapes of what assertions examine. -/
inductive TargetShape where
  /-- A parsed workflow with the status of its parser. -/
  | workflow
  /-- The declaration of a resolver. -/
  | metadata
  /-- What was observed while a resolver ran. -/
  | runtime
  deriving DecidableEq, Repr

namespace TargetShape

/-- Name of a shape in data. -/
def name : TargetShape → String
  | .workflow => "workflow"
  | .metadata => "metadata"
  | .runtime => "runtime"

/-- Name of a shape in messages (`TargetShape::label`). -/
def label : TargetShape → String
  | .workflow => "workflow AST"
  | .metadata => "resolver metadata"
  | .runtime => "runtime context"

/-- Every shape. -/
def all : List TargetShape := [.workflow, .metadata, .runtime]

end TargetShape

/-- The families of assertions (`AssertionFamily`). -/
inductive Family where
  | structural
  | metadata
  | runtime
  deriving DecidableEq, Repr

namespace Family

/-- Name of a family. -/
def name : Family → String
  | .structural => "structural"
  | .metadata => "metadata"
  | .runtime => "runtime"

/-- The shape that a family examines (`AssertionFamily::target_shape`). -/
def shape : Family → TargetShape
  | .structural => .workflow
  | .metadata => .metadata
  | .runtime => .runtime

end Family

/-- A kind of assertion. -/
inductive AssertionKind where
  | allowedResolversListed
  | resolverNamesNormalized
  | workflowNamePresent
  | workflowReturnValues
  | workflowReturnValuesEmpty
  | noParseWarnings
  | stepType
  | stepSaveAs
  | stepFailurePolicies
  | containsWarning
  | statusGreaterThan
  | resolverHasField
  | resolverInputsValid
  | resolverOutputsValid
  | fieldNamesNormalized
  | resolverFailuresValid
  | resolverCallable
  | failureCodeDeclared
  | rejectsMissingRequiredInput
  | retryWithinDeclaredLimit
  | outputIsObject
  | outputFieldsDeclared
  | deterministicOutput
  | noGlobalMutation
  deriving DecidableEq, Repr

namespace AssertionKind

/-- The registry: every kind, in order (`AssertionKind::ALL`). -/
def all : List AssertionKind :=
  [.allowedResolversListed, .resolverNamesNormalized, .workflowNamePresent,
   .workflowReturnValues, .workflowReturnValuesEmpty, .noParseWarnings, .stepType, .stepSaveAs,
   .stepFailurePolicies, .containsWarning, .statusGreaterThan, .resolverHasField,
   .resolverInputsValid, .resolverOutputsValid, .fieldNamesNormalized, .resolverFailuresValid,
   .resolverCallable, .failureCodeDeclared, .rejectsMissingRequiredInput,
   .retryWithinDeclaredLimit, .outputIsObject, .outputFieldsDeclared, .deterministicOutput,
   .noGlobalMutation]

/-- Name of a kind (`AssertionKind::as_str`). -/
def name : AssertionKind → String
  | .allowedResolversListed => "allowed_resolvers_listed"
  | .resolverNamesNormalized => "resolver_names_normalized"
  | .workflowNamePresent => "workflow_name_present"
  | .workflowReturnValues => "workflow_return_values"
  | .workflowReturnValuesEmpty => "workflow_return_values_empty"
  | .noParseWarnings => "no_parse_warnings"
  | .stepType => "step_type"
  | .stepSaveAs => "step_saveas"
  | .stepFailurePolicies => "step_failure_policies"
  | .containsWarning => "contains_warning"
  | .statusGreaterThan => "status_greater_than"
  | .resolverHasField => "resolver_has_field"
  | .resolverInputsValid => "resolver_inputs_valid"
  | .resolverOutputsValid => "resolver_outputs_valid"
  | .fieldNamesNormalized => "field_names_normalized"
  | .resolverFailuresValid => "resolver_failures_valid"
  | .resolverCallable => "resolver_callable"
  | .failureCodeDeclared => "failure_code_declared"
  | .rejectsMissingRequiredInput => "rejects_missing_required_input"
  | .retryWithinDeclaredLimit => "retry_within_declared_limit"
  | .outputIsObject => "output_is_object"
  | .outputFieldsDeclared => "output_fields_declared"
  | .deterministicOutput => "deterministic_output"
  | .noGlobalMutation => "no_global_mutation"

/-- The names of all kinds, sorted (`AssertionRegistry::names`). -/
def sortedNames : List String := (all.map name).mergeSort fun a b ↦ decide (a ≤ b)

/-- Family of a kind (`AssertionKind::family`). -/
def family : AssertionKind → Family
  | .allowedResolversListed | .resolverNamesNormalized | .workflowNamePresent
  | .workflowReturnValues | .workflowReturnValuesEmpty | .noParseWarnings | .stepType
  | .stepSaveAs | .stepFailurePolicies | .containsWarning | .statusGreaterThan => .structural
  | .resolverHasField | .resolverInputsValid | .resolverOutputsValid | .fieldNamesNormalized
  | .resolverFailuresValid => .metadata
  | .resolverCallable | .failureCodeDeclared | .rejectsMissingRequiredInput
  | .retryWithinDeclaredLimit | .outputIsObject | .outputFieldsDeclared | .deterministicOutput
  | .noGlobalMutation => .runtime

/-- Shape that a kind examines (`AssertionKind::target_shape`). -/
def shape (kind : AssertionKind) : TargetShape := kind.family.shape

/-- Kind of a name (`AssertionRegistry::lookup`). -/
def ofName? (name : String) : Option AssertionKind := all.find? (·.name == name)

/-- What is said of a name that belongs to no kind (`UnknownKind`). -/
def unknownMessage (name : String) : String := "Unknown assertion type: " ++ name

/-- The registry holds every kind. -/
theorem mem_all (kind : AssertionKind) : kind ∈ all := by cases kind <;> decide

/-- A kind is found by its name. -/
theorem ofName?_name (kind : AssertionKind) : ofName? kind.name = some kind := by
  cases kind <;> decide

/-- A name that is found is the name of what is found. -/
theorem name_of_ofName? {name : String} {kind : AssertionKind} (h : ofName? name = some kind) :
    kind.name = name := by
  simpa using List.find?_some h

end AssertionKind

end Certification
