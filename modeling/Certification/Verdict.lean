import Certification.Check.Basic
import Certification.Suite.Spec

/-!
# Verdicts

Every assertion of a suite is checked, in the order of declaration, and each one that does not hold
leaves a failure. A failure never keeps another assertion from being checked. The severity of an
assertion is carried along and decides nothing.
-/

namespace Certification

/-- An assertion that does not hold. -/
structure Failure where
  id : String
  severity : Severity
  message : String
  deriving DecidableEq, Repr

namespace Failure

/-- The failure of an assertion (`Failure::new`). -/
def of (a : Assertion) (message : String) : Failure := ⟨a.id, a.severity, message⟩

/-- The failure in one line (`Failure::fmt`). -/
def line (f : Failure) : String := "[" ++ f.severity.name ++ "] " ++ f.id ++ ": " ++ f.message

/-- The fields of a failure in data. -/
def dataShape : Shape where
  name := "Failure"
  fields :=
    [.of "id" Decoder.string [], .of "severity" Severity.decode [],
     .of "message" Decoder.string []]

/-- Reads a failure. -/
def decode : Decoder Failure := fun origin d ↦ do
  let fields ← dataShape.gather origin d
  let id ← fields.required origin "id" Decoder.string
  let severity ← fields.required origin "severity" Severity.decode
  let message ← fields.required origin "message" Decoder.string
  pure ⟨id, severity, message⟩

/-- Entries of the failure in data, in the order in which they are printed. -/
def entries (f : Failure) : List (String × Json) :=
  [("id", .string f.id), ("severity", f.severity.toJson), ("message", .string f.message)]

end Failure

/-- What the check of a suite comes to. -/
structure Verdict where
  ok : Bool
  message : String
  failures : List Failure
  deriving DecidableEq, Repr

namespace Verdict

/-- The verdict of some failures (`Verdict::from_failures`). -/
def ofFailures (failures : List Failure) : Verdict :=
  if failures.isEmpty then ⟨true, "All assertions passed", []⟩
  else ⟨false, "; ".intercalate (failures.map Failure.line), failures⟩

/-- The failures of fatal severity (`fatal_failures`). -/
def fatalFailures (v : Verdict) : List Failure := v.failures.filter (·.severity = .fatal)

/-- The fields of a verdict in data. -/
def dataShape : Shape where
  name := "Verdict"
  fields :=
    [.of "ok" Decoder.bool [], .of "message" Decoder.string [],
     .of "failures" (Decoder.list Failure.decode) []]

/-- Reads a verdict. -/
def decode : Decoder Verdict := fun origin d ↦ do
  let fields ← dataShape.gather origin d
  let ok ← fields.required origin "ok" Decoder.bool
  let message ← fields.required origin "message" Decoder.string
  let failures ← fields.required origin "failures" (Decoder.list Failure.decode)
  pure ⟨ok, message, failures⟩

/-- Entries of the verdict in data, in the order in which they are printed. -/
def entries (v : Verdict) : List (String × Json) :=
  [("ok", .bool v.ok), ("message", .string v.message),
   ("failures", .array (v.failures.map fun f ↦ .object f.entries))]

end Verdict

namespace Assertion

/-- The failure that an assertion leaves at a target, if it does not hold there
(`AssertionEvaluator::check`). -/
def failure? (target : Target) (a : Assertion) : Option Failure :=
  match AssertionKind.ofName? a.kind with
  | none => some (.of a (AssertionKind.unknownMessage a.kind))
  | some kind =>
    match kind.checkShaped target a with
    | .ok true => none
    | .ok false => some (.of a a.failureMessage)
    | .error fault => some (.of a fault.message)

end Assertion

/-- The verdict of a list of assertions at a target (`AssertionEvaluator::evaluate`). -/
def judge (assertions : List Assertion) (target : Target) : Verdict :=
  if assertions.isEmpty then ⟨true, "No assertions defined", []⟩
  else .ofFailures (assertions.filterMap (Assertion.failure? target))

end Certification
