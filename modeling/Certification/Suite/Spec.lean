import Certification.Assertion.Basic

/-!
# Suite specifications

What the specification file of a suite declares: who the suite is, which category it belongs to,
which fixture it examines and which assertions it makes. Only the first fixture counts, and in a
fixture a workflow wins over a declaration.
-/

namespace Certification

/-- A fixture: the file of a workflow, the file of a resolver's declaration, or both. -/
structure Fixture where
  workflow : Option String
  resolverContract : Option String
  deriving DecidableEq, Repr

/-- What a fixture points at, relative to the directory of its suite. -/
inductive FixtureSource where
  | workflow (file : String)
  | resolverContract (file : String)
  deriving DecidableEq, Repr

namespace Fixture

/-- The fixture of a workflow (`Fixture::workflow`). -/
def ofWorkflow (file : String) : Fixture := ⟨some file, none⟩

/-- The fixture of a declaration (`Fixture::resolver_contract`). -/
def ofResolverContract (file : String) : Fixture := ⟨none, some file⟩

/-- What the fixture points at; a workflow wins (`Fixture::source`). -/
def source? (f : Fixture) : Option FixtureSource :=
  match f.workflow with
  | some file => some (.workflow file)
  | none => f.resolverContract.map .resolverContract

/-- The fields of a fixture in data. -/
def dataShape : Shape where
  name := "Fixture"
  fields :=
    [.optional "workflow" Decoder.string [], .optional "resolver_contract" Decoder.string []]

/-- Reads a fixture. -/
def decode : Decoder Fixture := fun origin d ↦ do
  let fields ← dataShape.gather origin d
  let workflow ← fields.optional origin "workflow" Decoder.string
  let resolverContract ← fields.optional origin "resolver_contract" Decoder.string
  pure ⟨workflow, resolverContract⟩

/-- The fixture in data, without its absent fields. -/
def toJson (f : Fixture) : Json :=
  .record (presentEntries
    [("workflow", f.workflow.map .string), ("resolver_contract", f.resolverContract.map .string)])

end Fixture

/-- The fixtures of a suite. -/
structure Fixtures where
  inputs : List Fixture
  deriving DecidableEq, Repr

namespace Fixtures

/-- The fields of the fixtures in data. -/
def dataShape : Shape where
  name := "Fixtures"
  fields := [.of "inputs" (Decoder.list Fixture.decode) []]

/-- Reads fixtures. -/
def decode : Decoder Fixtures := fun origin d ↦ do
  let fields ← dataShape.gather origin d
  let inputs ← fields.withDefault origin "inputs" [] (Decoder.list Fixture.decode)
  pure ⟨inputs⟩

/-- The fixtures in data. -/
def toJson (f : Fixtures) : Json := .record [("inputs", .array (f.inputs.map Fixture.toJson))]

end Fixtures

/-- The declaration of a suite. -/
structure TestSpec where
  testId : Option String
  category : Option String
  description : Option String
  fixtures : Fixtures
  assertions : List Assertion
  deriving DecidableEq

namespace TestSpec

/-- The fixture that counts: the first one (`primary_fixture`). -/
def primaryFixture? (s : TestSpec) : Option Fixture := s.fixtures.inputs.head?

/-- Whether the suite is to be observed while the resolver runs (`is_runtime`). -/
def isRuntime (s : TestSpec) (runtimeCategory : String) : Bool :=
  s.category == some runtimeCategory

/-- The fields of a specification in data. -/
def dataShape : Shape where
  name := "TestSpec"
  fields :=
    [.optional "test_id" Decoder.string [], .optional "category" Decoder.string [],
     .optional "description" Decoder.string [], .of "fixtures" Fixtures.decode [],
     .of "assertions" (Decoder.list Assertion.decode) []]

/-- Reads a specification. -/
def decode : Decoder TestSpec := fun origin d ↦ do
  let fields ← dataShape.gather origin d
  let testId ← fields.optional origin "test_id" Decoder.string
  let category ← fields.optional origin "category" Decoder.string
  let description ← fields.optional origin "description" Decoder.string
  let fixtures ← fields.withDefault origin "fixtures" ⟨[]⟩ Fixtures.decode
  let assertions ← fields.required origin "assertions" (Decoder.list Assertion.decode)
  pure ⟨testId, category, description, fixtures, assertions⟩

/-- The specification in data, without its absent texts. -/
def toJson (s : TestSpec) : Json :=
  .record (presentEntries
    [("test_id", s.testId.map .string), ("category", s.category.map .string),
     ("description", s.description.map .string), ("fixtures", some s.fixtures.toJson),
     ("assertions", some (.array (s.assertions.map Assertion.toJson)))])

end TestSpec

end Certification
