import Certification.Assertion.Basic
import Certification.Identifier
import Certification.Path.Lookup
import Certification.Text.LowerCase
import Certification.Workflow.Basic

/-!
# Checks of a parsed workflow

The checks that read the structure of a workflow and the status of its parser. A check is false in
every expected negative case, such as a step that is not there; an error is kept for an assertion
that cannot be checked as it is written.
-/

namespace Certification

namespace WorkflowCheck

/-- Whether two lists have the same length and every expected member is an actual one
(`same_members`). -/
def sameMembers (actual expected : List String) : Bool :=
  actual.length == expected.length && expected.all actual.contains

/-- The allowed resolvers are the expected ones, in any order (`allowed_resolvers_listed`). -/
def allowedResolversListed (ast : WorkflowAst) (a : Assertion) : CheckResult := do
  let expected ← a.expectedStrings .allowedResolversListed
  pure (sameMembers ast.allowedResolvers expected)

/-- The names of the allowed resolvers are identifiers (`resolver_names_normalized`). -/
def resolverNamesNormalized (ast : WorkflowAst) : Bool :=
  ast.allowedResolvers.all isWorkflowIdentifier

/-- The workflow has the expected name (`workflow_name_present`). -/
def workflowNamePresent (ast : WorkflowAst) (a : Assertion) : CheckResult := do
  let expected ← a.requireExpected .workflowNamePresent
  pure (ast.name.isSome && ast.name == expected.string?)

/-- The returned values are the expected ones, in any order (`workflow_return_values`). -/
def workflowReturnValues (kind : AssertionKind) (ast : WorkflowAst) (a : Assertion) :
    CheckResult := do
  let expected ← a.expectedStrings kind
  pure (sameMembers ast.returnValues expected)

/-- The expected number of warnings, none if nothing is stated. -/
def expectedWarnings (a : Assertion) : Except AssertionError Nat :=
  match a.expected with
  | none => .ok 0
  | some expected =>
    match expected.nat? with
    | some n => .ok n
    | none =>
      .error
        (.invalidParameter .noParseWarnings .expected "expected a non-negative warning count")

/-- The parser gave the expected number of warnings (`no_parse_warnings`). -/
def noParseWarnings (status : ParseStatus) (a : Assertion) : CheckResult := do
  let expected ← expectedWarnings a
  pure (status.warnings.length == expected)

/-- A text of the step at the stated position is the expected one. -/
def stepText (kind : AssertionKind) (field : WorkflowStep → Option String) (ast : WorkflowAst)
    (a : Assertion) : CheckResult := do
  let position ← a.requireStepIndex kind
  let expected ← a.requireExpected kind
  let actual := (ast.step? position).bind field
  pure (actual.isSome && actual == expected.string?)

/-- The step has the expected type (`step_type`). -/
def stepType : WorkflowAst → Assertion → CheckResult := stepText .stepType WorkflowStep.stepType

/-- The step saves its result under the expected name (`step_save_as`). -/
def stepSaveAs : WorkflowAst → Assertion → CheckResult := stepText .stepSaveAs WorkflowStep.saveAs

/-- Whether an optional text is the expected one; an absent text matches only an absent value
(`optional_str_matches`). -/
def textMatches : Option String → Option Json → Bool
  | none, none => true
  | some actual, some (.string expected) => actual == expected
  | _, _ => false

/-- Whether an optional count is the expected one; an absent count matches only an absent value
(`optional_count_matches`). -/
def countMatches : Option Nat → Option Json → Bool
  | none, none => true
  | some actual, some expected => expected.nat? == some actual
  | _, _ => false

/-- Whether a policy does what is wanted for its code. -/
def policyMatches (policy : FailurePolicy) (wanted : Json) : Bool :=
  textMatches policy.action (wanted.get? "action") &&
    countMatches policy.count (wanted.get? "count")

/-- Every wanted code has a policy that does what is wanted. -/
def policiesMatch (policies : List (String × FailurePolicy)) (wanted : List (String × Json)) :
    Bool :=
  wanted.all fun entry ↦ (policies.lookup entry.1).any (policyMatches · entry.2)

/-- The step handles the expected error codes in the expected way (`step_failure_policies`). -/
def stepFailurePolicies (ast : WorkflowAst) (a : Assertion) : CheckResult := do
  let position ← a.requireStepIndex .stepFailurePolicies
  let expected ← a.requireExpected .stepFailurePolicies
  match expected.object? with
  | none =>
    .error
      (.invalidParameter .stepFailurePolicies .expected "expected an object keyed by error code")
  | some wanted =>
    pure (((ast.step? position).bind WorkflowStep.failurePolicies).any (policiesMatch · wanted))

/-- Some warning contains the expected text, whatever its letter case (`contains_warning`). -/
def containsWarning (status : ParseStatus) (a : Assertion) : CheckResult := do
  let needle ← a.requireSubstring .containsWarning
  pure (status.warnings.any fun warning ↦
    Text.occursIn (Text.lowerCase needle) (Text.lowerCase warning.message))

/-- The number at a path of the status is greater than the expected one, both as binary64 numbers
(`status_greater_than`). -/
def statusGreaterThan (status : ParseStatus) (a : Assertion) : CheckResult := do
  let expression ← a.requirePath .statusGreaterThan
  match Path.parse expression with
  | .error fault => .error (.invalidParameter .statusGreaterThan .path fault.reason)
  | .ok path =>
    let expected ← a.requireExpected .statusGreaterThan
    match expected.double? with
    | none => .error (.invalidParameter .statusGreaterThan .expected "expected a number")
    | some threshold =>
      pure (((path.lookup status.tree).bind Json.double?).any threshold.lt)

end WorkflowCheck

end Certification
