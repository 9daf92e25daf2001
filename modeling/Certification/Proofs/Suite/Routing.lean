import Certification.Proofs.Chain
import Certification.Proofs.Files.Replaced
import Certification.Proofs.Suite.Containment
import Certification.Resolver.Scripted

/-!
# Routing by the first fixture

What a suite comes to depends on little of its specification: on the category, the identifier and
the assertions, on where the first fixture leads, and on nothing else. When the suite is observed
even the fixtures are of no account. So a specification may be replaced by one that agrees with it
in these, unless the first fixture leads to the file of the specification itself.
-/

namespace Certification

/-- The file that a fixture points at. -/
def FixtureSource.file : FixtureSource → String
  | .workflow file | .resolverContract file => file

namespace TestSpec

/-- The file that a specification examines: that of its first fixture, unless the suite is
observed. -/
def routedFile? (spec : TestSpec) (runtimeCategory : String) : Option String :=
  if spec.isRuntime runtimeCategory then none
  else (spec.primaryFixture?.bind Fixture.source?).map FixtureSource.file

/-- Two specifications that make the same assertions on the same route: both are observed, or their
first fixtures are the same, or both first fixtures name the same workflow. -/
structure RoutesAlike (runtimeCategory : String) (spec spec' : TestSpec) : Prop where
  testId : spec.testId = spec'.testId
  category : spec.category = spec'.category
  assertions : spec.assertions = spec'.assertions
  route : spec.category = some runtimeCategory ∨ spec.primaryFixture? = spec'.primaryFixture? ∨
    ∃ first first' file, spec.primaryFixture? = some first ∧ spec'.primaryFixture? = some first' ∧
      first.workflow = some file ∧ first'.workflow = some file

namespace RoutesAlike

variable {runtimeCategory : String} {spec spec' : TestSpec}
  (h : spec.RoutesAlike runtimeCategory spec')

include h

/-- Both suites are observed, or neither is. -/
theorem isRuntime : spec.isRuntime runtimeCategory = spec'.isRuntime runtimeCategory := by
  rw [TestSpec.isRuntime, TestSpec.isRuntime, h.category]

/-- What is not observed examines the same source. -/
theorem source (hr : spec.isRuntime runtimeCategory = false) :
    spec.primaryFixture?.bind Fixture.source? = spec'.primaryFixture?.bind Fixture.source? := by
  rcases h.route with hcategory | hsame | ⟨first, first', file, hfirst, hfirst', hfile, hfile'⟩
  · simp [TestSpec.isRuntime, hcategory] at hr
  · rw [hsame]
  · simp [hfirst, hfirst', Fixture.source?, hfile, hfile']

private theorem routedFile :
    spec.routedFile? runtimeCategory = spec'.routedFile? runtimeCategory := by
  unfold routedFile?
  rw [← h.isRuntime]
  split
  · rfl
  · next hr => rw [h.source (by simpa using hr)]

end RoutesAlike

end TestSpec

namespace Suites

variable {σ : Type} (s : Suites) (r : Resolver σ) (suite : String)

/-- Evaluates a suite with a specification that was loaded. -/
def evaluateSpec (spec : TestSpec) : Trial σ (Except SuiteFault Evaluation) := do
  match ← s.acquireTarget r suite spec with
  | .error fault => pure (.error fault)
  | .ok target => pure (.ok ⟨spec.testId, target.shape, judge spec.assertions target⟩)

private theorem evaluate_eq_evaluateSpec {spec : TestSpec} (h : s.loadSpec suite = .ok spec) :
    s.evaluate r suite = s.evaluateSpec r suite spec := by
  unfold evaluate
  rw [h]
  dsimp only
  apply congrArg
  funext acquired
  cases acquired with
  | error fault => rfl
  | ok target => rfl

private theorem evaluateSpec_of_routesAlike {spec spec' : TestSpec}
    (h : spec.RoutesAlike s.settings.runtimeCategory spec') :
    s.evaluateSpec r suite spec = s.evaluateSpec r suite spec' := by
  have hacquire : s.acquireTarget r suite spec = s.acquireTarget r suite spec' := by
    cases hr : spec.isRuntime s.settings.runtimeCategory with
    | true =>
      rw [s.acquireTarget_of_isRuntime r suite hr,
        s.acquireTarget_of_isRuntime r suite (h.isRuntime ▸ hr), h.testId]
    | false =>
      simp only [acquireTarget, ← h.isRuntime, hr, h.source hr, Bool.false_eq_true, if_false]
  rw [evaluateSpec, evaluateSpec, hacquire, h.testId, h.assertions]

/-- The suites of another directory, under the same root and with the same settings. -/
def withDisk (disk : Disk) : Suites := { s with disk := disk }

section Read

variable {disk : Disk} {file : String}
  (h : s.disk.readText (s.fixturePath suite file) = disk.readText (s.fixturePath suite file))

include h

private theorem readFile_withDisk (missing : String → SuiteFault) :
    s.readFile missing (Location.join (s.directory suite) file) =
      (s.withDisk disk).readFile missing
        (Location.join ((s.withDisk disk).directory suite) file) := by
  have htext : s.disk.readText (Location.join (s.directory suite) file) =
      (s.withDisk disk).disk.readText (Location.join ((s.withDisk disk).directory suite) file) := h
  rw [readFile, readFile, htext]
  rfl

private theorem parseWorkflow_withDisk :
    s.parseWorkflow r suite file = (s.withDisk disk).parseWorkflow r suite file := by
  unfold parseWorkflow
  rw [s.readFile_withDisk suite h]

private theorem loadContract_withDisk :
    s.loadContract suite file = (s.withDisk disk).loadContract suite file := by
  simp only [loadContract]
  rw [s.readFile_withDisk suite h]
  rfl

end Read

/-- A directory in which the examined file reads the same gives the same evaluation. -/
theorem evaluateSpec_withDisk {spec : TestSpec} {disk : Disk}
    (h : ∀ file, spec.routedFile? s.settings.runtimeCategory = some file →
      s.disk.readText (s.fixturePath suite file) = disk.readText (s.fixturePath suite file)) :
    s.evaluateSpec r suite spec = (s.withDisk disk).evaluateSpec r suite spec := by
  have hacquire : s.acquireTarget r suite spec = (s.withDisk disk).acquireTarget r suite spec := by
    cases hr : spec.isRuntime s.settings.runtimeCategory with
    | true =>
      rw [s.acquireTarget_of_isRuntime r suite hr,
        (s.withDisk disk).acquireTarget_of_isRuntime r suite hr]
      rfl
    | false =>
      have hr' : spec.isRuntime (s.withDisk disk).settings.runtimeCategory = false := hr
      simp only [acquireTarget, hr, hr', Bool.false_eq_true, if_false]
      cases hsource : spec.primaryFixture?.bind Fixture.source? with
      | none => rfl
      | some source =>
        have hfile : spec.routedFile? s.settings.runtimeCategory = some source.file := by
          simp [TestSpec.routedFile?, hr, hsource]
        cases source with
        | workflow file => exact s.parseWorkflow_withDisk r suite (h file hfile)
        | resolverContract file =>
          have hload := s.loadContract_withDisk suite (h file hfile)
          simp only [hload]
  rw [evaluateSpec, evaluateSpec, hacquire]

/-- The suites of a directory in which a file is replaced. -/
def withFile (place : Place) (content : List UInt8) : Suites :=
  s.withDisk (s.disk.put place (.file content))

/-- Specifications on the same route come to the same by the same calls, both when they are
evaluated in one directory and when each stands in its own, whatever else they say; but in
directories that differ in the file of the specification, the route must not lead to that file. -/
theorem routing_noninterfering {spec spec' : TestSpec}
    (h : spec.RoutesAlike s.settings.runtimeCategory spec') :
    s.evaluateSpec r suite spec = s.evaluateSpec r suite spec' ∧
    ∀ place content content',
      (s.withFile place content).loadSpec suite = .ok spec →
      (s.withFile place content').loadSpec suite = .ok spec' →
      (∀ file, spec.routedFile? s.settings.runtimeCategory = some file →
        ¬(s.withFile place content).disk.LeadsTo (s.fixturePath suite file) place) →
      (s.withFile place content).runSuite r suite =
        (s.withFile place content').runSuite r suite := by
  refine ⟨s.evaluateSpec_of_routesAlike r suite h, ?_⟩
  intro place content content' hload hload' hfile
  have hroute : spec.RoutesAlike (s.withFile place content).settings.runtimeCategory spec' := h
  have hread : ∀ file, spec'.routedFile? s.settings.runtimeCategory = some file →
      (s.withFile place content).disk.readText (s.fixturePath suite file) =
        (s.withFile place content').disk.readText (s.fixturePath suite file) := by
    intro file hrouted
    exact s.disk.readText_put_file place content' (hfile file (h.routedFile.trans hrouted))
  have hevaluate : (s.withFile place content).evaluate r suite =
      (s.withFile place content').evaluate r suite := by
    calc (s.withFile place content).evaluate r suite
        = (s.withFile place content).evaluateSpec r suite spec :=
          evaluate_eq_evaluateSpec _ r suite hload
      _ = (s.withFile place content).evaluateSpec r suite spec' :=
          evaluateSpec_of_routesAlike _ r suite hroute
      _ = (s.withFile place content').evaluateSpec r suite spec' :=
          (s.withFile place content).evaluateSpec_withDisk r suite hread
      _ = (s.withFile place content').evaluate r suite :=
          (evaluate_eq_evaluateSpec _ r suite hload').symm
  rw [runSuite, runSuite, hevaluate]

/-- A script that parses workflows. -/
def reader : Script where
  name := "reader"
  replies := []
  declaration := none
  description := none
  fingerprints := none
  parser := some .reads

/-- A directory with one suite, which holds an empty workflow. -/
def flow : Suites where
  disk := ⟨"/work", [(["s"], .directory), (["s", "w"], .file (Text.Utf8.encode "\x7b\x7d"))]⟩
  root := "."
  settings := .default

/-- The directory with a text for the specification of the suite. -/
def flowWith (text : String) : Suites := flow.withFile ["s", "test.json"] (Text.Utf8.encode text)

/-- A specification with a description, a declaration beside its workflow and a second fixture. -/
def described : TestSpec where
  testId := some "S"
  category := none
  description := some "d"
  fixtures := ⟨[⟨some "w", some "test.json"⟩, ⟨none, none⟩]⟩
  assertions := [Assertion.new "A" "no_parse_warnings"]

/-- The specification with its workflow and nothing beside it. -/
def terse : TestSpec := { described with description := none, fixtures := ⟨[.ofWorkflow "w"]⟩ }

/-- A text of the specification with all of these. -/
def describedText : String :=
  "[\"S\",null,\"d\",[[[\"w\",\"test.json\"],[]]],[[\"A\",\"no_parse_warnings\"]]]"

/-- A text of the specification with none of these, but with an unknown key. -/
def terseText : String :=
  "\x7b\"x\":7,\"fixtures\":[[[\"w\"]]],\"test_id\":\"S\",\"assertions\":" ++
    "[[\"A\",\"no_parse_warnings\"]]\x7d"

/-- The two specifications come to the same. -/
theorem routing_noninterfering_terse :
    described.RoutesAlike flow.settings.runtimeCategory terse ∧
    (flowWith describedText).loadSpec "s" = .ok described ∧
    (flowWith terseText).loadSpec "s" = .ok terse ∧
    described.routedFile? flow.settings.runtimeCategory = some "w" ∧
    (flowWith describedText).disk.LeadsTo (flow.fixturePath "s" "w") (.inside ["s", "w"]) ∧
    flow.evaluateSpec reader.resolver "s" described =
      flow.evaluateSpec reader.resolver "s" terse ∧
    (flowWith describedText).runSuite reader.resolver "s" =
      (flowWith terseText).runSuite reader.resolver "s" := by
  have hroutes : described.RoutesAlike flow.settings.runtimeCategory terse := by
    constructor
    · rfl
    · rfl
    · rfl
    · exact .inr (.inr ⟨_, _, "w", rfl, rfl, rfl, rfl⟩)
  have hload : (flowWith describedText).loadSpec "s" = .ok described :=
    eq_ok_of_toOption (by decide +kernel)
  have hload' : (flowWith terseText).loadSpec "s" = .ok terse :=
    eq_ok_of_toOption (by decide +kernel)
  have hrouted : described.routedFile? flow.settings.runtimeCategory = some "w" := by decide
  have hfind : (flowWith describedText).disk.find (flow.fixturePath "s" "w") =
      .ok (.inside ["s", "w"], .file (Text.Utf8.encode "\x7b\x7d")) :=
    eq_ok_of_toOption (by decide +kernel)
  obtain ⟨hsame, hruns⟩ := routing_noninterfering flow reader.resolver "s" hroutes
  refine ⟨hroutes, hload, hload', hrouted, ⟨_, hfind⟩, hsame, hruns _ _ _ hload hload' ?_⟩
  rintro file hfile ⟨node, hnode⟩
  rw [hrouted] at hfile
  cases hfile
  have hplace : Place.inside ["s", "test.json"] = .inside ["s", "w"] :=
    congrArg Prod.fst (Except.ok.inj (hnode.symm.trans hfind))
  exact absurd hplace (by decide)

/-- A text of a specification whose first fixture is the declaration in its own file, with another
entry in front. -/
def selfNamedText (entry : String) : String :=
  "\x7b" ++ entry ++ "\"fixtures\":[[[null,\"test.json\"]]],\"assertions\":" ++
    "[[\"A\",\"resolver_outputs_valid\"]]\x7d"

/-- The specification in that text. -/
def selfNamed : TestSpec where
  testId := none
  category := none
  description := none
  fixtures := ⟨[.ofResolverContract "test.json"]⟩
  assertions := [Assertion.new "A" "resolver_outputs_valid"]

/-- Two texts of one specification, which differ in an unknown key alone, come to different outcomes
where the first fixture is the file of the specification. -/
theorem runSuite_selfNamed :
    (flowWith (selfNamedText "")).loadSpec "s" = .ok selfNamed ∧
    (flowWith (selfNamedText "\"outputs\":1,")).loadSpec "s" = .ok selfNamed ∧
    selfNamed.RoutesAlike "resolver-runtime" selfNamed ∧
    ((flowWith (selfNamedText "")).runSuite reader.resolver "s" Script.start).answer =
      .ok ⟨"s", none, some .metadata, .passed, .zero⟩ ∧
    ((flowWith (selfNamedText "\"outputs\":1,")).runSuite reader.resolver "s" Script.start).answer =
      .ok ⟨"s", none, some .metadata,
        .failed (.ofFailures [⟨"A", .fatal, "Assertion failed: A"⟩]), .zero⟩ := by
  refine ⟨?_, ?_, ⟨rfl, rfl, rfl, .inr (.inl rfl)⟩, ?_, ?_⟩
  · exact eq_ok_of_toOption (by decide +kernel)
  · exact eq_ok_of_toOption (by decide +kernel)
  · exact eq_ok_of_toOption (by decide +kernel)
  · exact eq_ok_of_toOption (by decide +kernel)

end Suites

end Certification
