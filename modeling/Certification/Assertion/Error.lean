import Certification.Assertion.Kind

/-!
# Faulty assertions

Why an assertion cannot be checked as it is written.
-/

namespace Certification

/-- A parameter of an assertion. -/
inductive Parameter where
  | expected
  | stepIndex
  | field
  | path
  | expectedSubstring
  deriving DecidableEq, Repr

/-- Name of a parameter. -/
def Parameter.name : Parameter → String
  | .expected => "expected"
  | .stepIndex => "stepIndex"
  | .field => "field"
  | .path => "path"
  | .expectedSubstring => "expected_substring"

/-- Why an assertion cannot be checked. -/
inductive AssertionError where
  /-- What is examined has another shape. -/
  | incompatibleTarget (kind : AssertionKind) (actual : TargetShape)
  | missingParameter (kind : AssertionKind) (parameter : Parameter)
  | invalidParameter (kind : AssertionKind) (parameter : Parameter) (reason : String)
  deriving DecidableEq, Repr

/-- The wording of a fault. -/
def AssertionError.message : AssertionError → String
  | .incompatibleTarget kind actual =>
    "assertion kind '" ++ kind.name ++ "' applies to " ++ kind.shape.label ++ " targets, got " ++
      actual.label
  | .missingParameter kind parameter =>
    "assertion kind '" ++ kind.name ++ "' requires parameter '" ++ parameter.name ++ "'"
  | .invalidParameter kind parameter reason =>
    "assertion kind '" ++ kind.name ++ "' has invalid parameter '" ++ parameter.name ++ "': " ++
      reason

/-- What a check of an assertion says. -/
abbrev CheckResult := Except AssertionError Bool

end Certification
