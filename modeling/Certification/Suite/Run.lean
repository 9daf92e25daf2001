import Certification.Files.Disk
import Certification.Observation.Observe
import Certification.Suite.Fault
import Certification.Suite.Outcome
import Certification.Time.Timestamp
import Certification.Workflow.Codec

/-!
# Running suites

A suite is a directory with a specification. Its target is built from what the specification names:
an observation of the resolver, a parsed workflow, or a declaration from a file; then its assertions
are judged. `runSuite` turns every way in which this can end into an outcome, panics of the resolver
included, and `Suites.run` runs a list of suites in order, each with the state in which the one
before it has left the resolver.
-/

namespace Certification

/-- The directory that holds the suites, and the settings for them (`SuiteOrchestrator`). -/
structure Suites where
  disk : Disk
  root : String
  settings : Settings

/-- What the evaluation of a suite comes to (`Evaluated`). -/
structure Evaluation where
  testId : Option String
  shape : TargetShape
  verdict : Verdict
  deriving DecidableEq

namespace Suites

variable {σ : Type}

/-- The directory of a suite. -/
def directory (s : Suites) (suite : String) : String := Location.join s.root suite

/-- The text of a file; `missing` says what a missing one is (`read_file`). -/
def readFile (s : Suites) (missing : String → SuiteFault) (path : String) :
    Except SuiteFault String :=
  match s.disk.readText path with
  | .ok text => .ok text
  | .error .notFound => .error (missing path)
  | .error cause => .error (.unreadable path cause)

/-- The specification of a suite (`load_spec`). -/
def loadSpec (s : Suites) (suite : String) : Except SuiteFault TestSpec := do
  let path := Location.join (s.directory suite) s.settings.specFile
  let text ← s.readFile .specMissing path
  (Decoder.ofText TestSpec.decode text).mapError (.specInvalid path)

/-- The declaration in a file of a suite (`ResolverContract::from_json_str`). -/
def loadContract (s : Suites) (suite file : String) : Except SuiteFault ResolverContract := do
  let path := Location.join (s.directory suite) file
  let text ← s.readFile .fixtureMissing path
  (Decoder.ofText ResolverContract.decode text).mapError (.contractInvalid path)

/-- Parses the workflow in a file of a suite, as `build_target` does. -/
def parseWorkflow (s : Suites) (r : Resolver σ) (suite file : String) :
    Trial σ (Except SuiteFault Target) :=
  match s.readFile .fixtureMissing (Location.join (s.directory suite) file) with
  | .error fault => pure (.error fault)
  | .ok source =>
    match r.parser with
    | none => pure (.error (.parserMissing r.name))
    | some parser => do
      match ← Resolver.tryParse parser source with
      | .error message => pure (.error (.parserRejected suite message))
      | .ok output => pure (.ok (.ofParseOutput output))

/-- What the assertions of a suite examine (`build_target`). The category of observed suites wins
over any fixture. -/
def acquireTarget (s : Suites) (r : Resolver σ) (suite : String) (spec : TestSpec) :
    Trial σ (Except SuiteFault Target) :=
  if spec.isRuntime s.settings.runtimeCategory then do
    let observation ← r.observe (.forSuite spec.testId s.settings)
    pure (.ok (.runtime observation))
  else
    match spec.primaryFixture?.bind Fixture.source? with
    | none => pure (.error (.fixtureUnrecognized suite))
    | some (.workflow file) => s.parseWorkflow r suite file
    | some (.resolverContract file) => pure ((s.loadContract suite file).map .metadata)

/-- Evaluates a suite (`evaluate_suite`). -/
def evaluate (s : Suites) (r : Resolver σ) (suite : String) :
    Trial σ (Except SuiteFault Evaluation) :=
  match s.loadSpec suite with
  | .error fault => pure (.error fault)
  | .ok spec => do
    match ← s.acquireTarget r suite spec with
    | .error fault => pure (.error fault)
    | .ok target => pure (.ok ⟨spec.testId, target.shape, judge spec.assertions target⟩)

/-- The status of a verdict. -/
def statusOf (verdict : Verdict) : SuiteStatus := if verdict.ok then .passed else .failed verdict

/-- The status of a fault. -/
def statusOfFault (fault : SuiteFault) : SuiteStatus :=
  if fault.isCrash then .crashed fault.message else .loadFailed fault.message

/-- The outcome of an attempt to evaluate a suite. -/
def outcomeOf (suite : String) : Answer (Except SuiteFault Evaluation) → SuiteOutcome
  | .ok (.ok e) => ⟨suite, e.testId, some e.shape, statusOf e.verdict, .zero⟩
  | .ok (.error fault) => ⟨suite, none, none, statusOfFault fault, .zero⟩
  | .error panic => ⟨suite, none, none, .crashed ("suite panicked: " ++ panic.message), .zero⟩

/-- Runs a suite (`SuiteOrchestrator::run_suite`). No panic gets out of it. -/
def runSuite (s : Suites) (r : Resolver σ) (suite : String) : Trial σ SuiteOutcome := do
  let attempt ← (s.evaluate r suite).catchPanic
  pure (outcomeOf suite attempt)

/-- Runs suites in order, given how many have failed before: how many have failed in the end, and
the outcomes. This is the loop of `SuiteOrchestrator::run`. -/
def runFrom (s : Suites) (r : Resolver σ) : Nat → List String → Trial σ (Nat × List SuiteOutcome)
  | failed, [] => pure (failed, [])
  | failed, suite :: rest =>
    if 0 < failed ∧ s.settings.continueOnFailure = false then do
      let more ← runFrom s r failed rest
      pure (more.1, .skipped suite :: more.2)
    else do
      let outcome ← s.runSuite r suite
      let more ← runFrom s r (if outcome.status.isFailed then failed + 1 else failed) rest
      pure (more.1, outcome :: more.2)

end Suites

/-- A run of suites against one resolver. -/
structure CertificationRun where
  resolver : String
  /-- How many suites count against certification. -/
  failed : Nat
  /-- The outcomes in the order of the suites. -/
  outcomes : List SuiteOutcome
  startedAt : Timestamp
  completedAt : Timestamp
  deriving DecidableEq

namespace CertificationRun

/-- How many suites passed (`CertificationRun::passed`). -/
def passed (run : CertificationRun) : Nat := run.outcomes.countP (·.status.isPassed)

/-- How many suites were not run (`CertificationRun::skipped`). -/
def skipped (run : CertificationRun) : Nat := run.outcomes.countP (·.status.isSkipped)

/-- Whether the resolver is certified: no suite counts against it
(`CertificationRun::is_certified`). -/
def isCertified (run : CertificationRun) : Bool := run.failed == 0

/-- The fields of a run in data. -/
def dataShape : Shape where
  name := "CertificationRun"
  fields :=
    [.of "resolver" Decoder.string [], .of "failed" Decoder.size [],
     .of "outcomes" (Decoder.list SuiteOutcome.decode) [],
     .of "started_at" Timestamp.decode [], .of "completed_at" Timestamp.decode []]

/-- Reads a run. -/
def decode : Decoder CertificationRun := fun origin d ↦ do
  let fields ← dataShape.gather origin d
  let resolver ← fields.required origin "resolver" Decoder.string
  let failed ← fields.required origin "failed" Decoder.size
  let outcomes ← fields.required origin "outcomes" (Decoder.list SuiteOutcome.decode)
  let startedAt ← fields.required origin "started_at" Timestamp.decode
  let completedAt ← fields.required origin "completed_at" Timestamp.decode
  pure ⟨resolver, failed, outcomes, startedAt, completedAt⟩

/-- The run in data. -/
def toJson (run : CertificationRun) : Json :=
  .object
    [("resolver", .string run.resolver), ("failed", .ofNat run.failed),
     ("outcomes", .array (run.outcomes.map fun o ↦ .object o.entries)),
     ("started_at", run.startedAt.toJson), ("completed_at", run.completedAt.toJson)]

end CertificationRun

/-- Runs suites against a resolver, from one moment to another (`SuiteOrchestrator::run`). -/
def Suites.run {σ : Type} (s : Suites) (r : Resolver σ) (suites : List String)
    (startedAt completedAt : Timestamp) : Trial σ CertificationRun := do
  let result ← s.runFrom r 0 suites
  pure ⟨r.name, result.1, result.2, startedAt, completedAt⟩

namespace Suites

variable {σ : Type}

/-- A suite always has an outcome. -/
theorem runSuite_answer (s : Suites) (r : Resolver σ) (suite : String) (state : σ) :
    (s.runSuite r suite state).answer =
      .ok (outcomeOf suite (s.evaluate r suite state).answer) := rfl

/-- Suites that are run in order always have outcomes. -/
theorem runFrom_answer_isOk (s : Suites) (r : Resolver σ) (failed : Nat) (suites : List String)
    (state : σ) : ∃ result, (s.runFrom r failed suites state).answer = .ok result := by
  induction suites generalizing failed state with
  | nil => exact ⟨(failed, []), rfl⟩
  | cons suite rest ih =>
    unfold runFrom
    split
    · obtain ⟨more, hmore⟩ := ih failed state
      exact ⟨(more.1, .skipped suite :: more.2),
        by simp [bind, Trial.bind, pure, Trial.pure, hmore]⟩
    · obtain ⟨more, hmore⟩ :=
        ih (if (outcomeOf suite (s.evaluate r suite state).answer).status.isFailed then failed + 1
          else failed) (s.runSuite r suite state).state
      refine ⟨(more.1, outcomeOf suite (s.evaluate r suite state).answer :: more.2), ?_⟩
      simp [bind, Trial.bind, pure, Trial.pure, runSuite_answer, hmore]

/-- No panic ends a run. -/
theorem run_answer_ne_error (s : Suites) (r : Resolver σ) (suites : List String)
    (startedAt completedAt : Timestamp) (state : σ) (panic : Panic) :
    (s.run r suites startedAt completedAt state).answer ≠ .error panic := by
  obtain ⟨result, h⟩ := s.runFrom_answer_isOk r 0 suites state
  simp [run, bind, Trial.bind, pure, Trial.pure, h]

end Suites

end Certification
