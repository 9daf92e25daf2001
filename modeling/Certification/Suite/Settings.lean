import Certification.Json.Record

/-!
# Settings of a run

What a run of suites can be told: how the files are named, which suites are observed while the
resolver runs, which of them is observed repeatedly, and whether a failure ends the run. Every
setting has a default. `Repetition` says how often a suite invokes the resolver.
-/

namespace Certification

/-- The settings of a run (`ConformanceConfig`). -/
structure Settings where
  /-- Name of the specification file in the directory of a suite. -/
  specFile : String
  /-- Category of the suites that are observed while the resolver runs. -/
  runtimeCategory : String
  /-- Identifier of the suite that invokes the resolver repeatedly. -/
  determinismSuite : String
  /-- How often that suite invokes it; at least two invocations are made. -/
  determinismRepetitions : Nat
  /-- Whether suites are run after one has failed. -/
  continueOnFailure : Bool
  deriving DecidableEq, Repr

namespace Settings

/-- The settings of a run that is told nothing. -/
def default : Settings where
  specFile := "test.json"
  runtimeCategory := "resolver-runtime"
  determinismSuite := "R-011-determinism"
  determinismRepetitions := 3
  continueOnFailure := true

instance : Inhabited Settings := ⟨default⟩

/-- The settings in data. -/
def dataShape : Shape where
  name := "ConformanceConfig"
  fields :=
    [.of "spec_file_name" Decoder.string [], .of "runtime_category" Decoder.string [],
     .of "determinism_suite_id" Decoder.string [], .of "determinism_repetitions" Decoder.size [],
     .of "continue_on_failure" Decoder.bool []]

/-- Reads settings; what is not told keeps its default. -/
def decode : Decoder Settings := fun origin d ↦ do
  let fields ← dataShape.gather origin d
  let specFile ← fields.withDefault origin "spec_file_name" default.specFile Decoder.string
  let runtimeCategory ←
    fields.withDefault origin "runtime_category" default.runtimeCategory Decoder.string
  let determinismSuite ←
    fields.withDefault origin "determinism_suite_id" default.determinismSuite Decoder.string
  let determinismRepetitions ←
    fields.withDefault origin "determinism_repetitions" default.determinismRepetitions
      Decoder.size
  let continueOnFailure ←
    fields.withDefault origin "continue_on_failure" default.continueOnFailure Decoder.bool
  pure ⟨specFile, runtimeCategory, determinismSuite, determinismRepetitions, continueOnFailure⟩

/-- The settings in data. -/
def toJson (s : Settings) : Json :=
  .record
    [("spec_file_name", .string s.specFile), ("runtime_category", .string s.runtimeCategory),
     ("determinism_suite_id", .string s.determinismSuite),
     ("determinism_repetitions", .ofNat s.determinismRepetitions),
     ("continue_on_failure", .bool s.continueOnFailure)]

end Settings

/-- How often a suite invokes the resolver (`InvocationPolicy`). -/
inductive Repetition where
  | once
  | repeated (n : Nat)
  deriving DecidableEq, Repr

namespace Repetition

/-- The number of invocations, unless one of them throws (`InvocationPolicy::repetitions`). -/
def count : Repetition → Nat
  | .once => 1
  | .repeated n => n

/-- The repetition of a suite: several invocations for the determinism suite, one for any other
(`InvocationPolicy::for_suite`). -/
def forSuite (testId : Option String) (settings : Settings) : Repetition :=
  if testId = some settings.determinismSuite then
    .repeated (max settings.determinismRepetitions 2)
  else .once

/-- The names of the choices. -/
def known : List String := ["once", "repeated"]

/-- Reads a name that stands alone. -/
def ofName (name : String) : Except DecodeError Repetition :=
  if name = "once" then .ok .once
  else if name = "repeated" then .error (.invalidType .bareVariant "newtype variant")
  else .error (.unknownVariant name known)

/-- The decoder of what stands under a name. -/
def contentOf (name : String) : Except DecodeError (Decoder Repetition) :=
  if name = "once" then .ok (Decoder.unitAs .once)
  else if name = "repeated" then
    .ok fun origin d ↦ (Decoder.size origin d).map .repeated
  else .error (.unknownVariant name known)

/-- Reads a repetition. -/
def decode : Decoder Repetition := Decoder.tagged ofName contentOf

/-- The repetition in data. -/
def toJson : Repetition → Json
  | .once => .string "once"
  | .repeated n => .record [("repeated", .ofNat n)]

/-- The determinism suite is invoked at least twice. -/
theorem two_le_count_forSuite (settings : Settings) :
    2 ≤ (forSuite (some settings.determinismSuite) settings).count := by
  simp only [forSuite, if_true, count]
  omega

end Repetition

end Certification
