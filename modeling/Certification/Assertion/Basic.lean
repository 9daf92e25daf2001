import Certification.Assertion.Error
import Certification.Json.Record

/-!
# Assertions

One declared check: its identifier, the name of its kind, how much a failure matters, and the
parameters that its kind may read. The kind stays a name, so that an unknown one is a failure of the
check and not of the file that declares it. `Assertion.decode` reads the accepted spellings and
`Assertion.toJson` writes the canonical one.
-/

namespace Certification

/-- Reads the name of a kind in data. -/
def AssertionKind.decode : Decoder AssertionKind :=
  Decoder.choice (all.map fun kind ↦ (kind.name, kind)) (all.map name)

/-- How much a failed assertion matters to a reader. It never decides whether a suite passes. -/
inductive Severity where
  | fatal
  | advisory
  deriving DecidableEq, Repr

namespace Severity

/-- Name of a severity (`Severity::as_str`). -/
def name : Severity → String
  | .fatal => "fatal"
  | .advisory => "advisory"

/-- Every spelling of a severity. -/
def spellings : List (String × Severity) :=
  [("fatal", .fatal), ("advisory", .advisory), ("info", .advisory), ("warn", .advisory),
   ("warning", .advisory)]

/-- Reads a severity. -/
def decode : Decoder Severity := Decoder.choice spellings (spellings.map Prod.fst)

/-- The severity in data. -/
def toJson (s : Severity) : Json := .string s.name

end Severity

/-- A declared check. -/
structure Assertion where
  id : String
  kind : String
  severity : Severity
  description : Option String
  expected : Option Json
  stepIndex : Option Int
  expectedSubstring : Option String
  path : Option String
  field : Option String
  deriving DecidableEq

namespace Assertion

/-- An assertion without parameters (`Assertion::new`). -/
def new (id kind : String) : Assertion where
  id := id
  kind := kind
  severity := .fatal
  description := none
  expected := none
  stepIndex := none
  expectedSubstring := none
  path := none
  field := none

/-- What a failure of the check says: the description, unless it is missing or empty
(`failure_message`). -/
def failureMessage (a : Assertion) : String :=
  match a.description with
  | some description =>
    if description = "" then "Assertion failed: " ++ a.id else description
  | none => "Assertion failed: " ++ a.id

/-! ## Parameters -/

/-- A parameter that a kind cannot do without. -/
def require {α : Type} (kind : AssertionKind) (parameter : Parameter) :
    Option α → Except AssertionError α
  | some a => .ok a
  | none => .error (.missingParameter kind parameter)

/-- The expected value (`require_expected`). -/
def requireExpected (a : Assertion) (kind : AssertionKind) : Except AssertionError Json :=
  require kind .expected a.expected

/-- The expected value as a list of strings (`expected_strings`). -/
def expectedStrings (a : Assertion) (kind : AssertionKind) :
    Except AssertionError (List String) := do
  let expected ← a.requireExpected kind
  match expected.array?.bind (·.mapM Json.string?) with
  | some strings => .ok strings
  | none => .error (.invalidParameter kind .expected "expected an array of strings")

/-- The position of a step (`require_step_index`). -/
def requireStepIndex (a : Assertion) (kind : AssertionKind) : Except AssertionError Int :=
  require kind .stepIndex a.stepIndex

/-- The name of a field (`require_field`). -/
def requireField (a : Assertion) (kind : AssertionKind) : Except AssertionError String :=
  require kind .field a.field

/-- A path expression (`require_path`). -/
def requirePath (a : Assertion) (kind : AssertionKind) : Except AssertionError String :=
  require kind .path a.path

/-- A text to search for (`require_substring`). -/
def requireSubstring (a : Assertion) (kind : AssertionKind) : Except AssertionError String :=
  require kind .expectedSubstring a.expectedSubstring

/-! ## Data form -/

/-- The fields of an assertion in data. -/
def dataShape : Shape where
  name := "Assertion"
  fields :=
    [.of "id" Decoder.string [], .of "type" Decoder.string ["kind"],
     .of "severity" Severity.decode [], .optional "description" Decoder.string [],
     .optional "expected" Decoder.json [], .optional "stepIndex" Decoder.int64 ["step_index"],
     .optional "expected_substring" Decoder.string [], .optional "path" Decoder.string [],
     .optional "field" Decoder.string []]

/-- Reads an assertion. -/
def decode : Decoder Assertion := fun origin d ↦ do
  let fields ← dataShape.gather origin d
  let id ← fields.required origin "id" Decoder.string
  let kind ← fields.required origin "type" Decoder.string
  let severity ← fields.withDefault origin "severity" .fatal Severity.decode
  let description ← fields.optional origin "description" Decoder.string
  let expected ← fields.optional origin "expected" Decoder.json
  let stepIndex ← fields.optional origin "stepIndex" Decoder.int64
  let expectedSubstring ← fields.optional origin "expected_substring" Decoder.string
  let path ← fields.optional origin "path" Decoder.string
  let field ← fields.optional origin "field" Decoder.string
  pure ⟨id, kind, severity, description, expected, stepIndex, expectedSubstring, path, field⟩

/-- The assertion in data, with every field, absent ones as null. -/
def toJson (a : Assertion) : Json :=
  .record
    [("id", .string a.id), ("type", .string a.kind), ("severity", a.severity.toJson),
     ("description", .ofOption .string a.description), ("expected", a.expected.getD .null),
     ("stepIndex", .ofOption .ofInt a.stepIndex),
     ("expected_substring", .ofOption .string a.expectedSubstring),
     ("path", .ofOption .string a.path), ("field", .ofOption .string a.field)]

end Assertion

end Certification
