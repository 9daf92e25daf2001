import Certification.Proofs.Suite.Attempts
import Certification.Proofs.Suite.Evaluation
import Certification.Proofs.Verdict

/-!
# Containment of suites

However the resolver behaves, the run of a suite ends with an outcome, and which one tells what
happened: a crash is a panic of the resolver, a suite that was not loaded has not invoked it, and only
a suite that was evaluated names its target and its specification. `Suites.runSuite_contained` says
this together with the calls that each kind of suite may make.
-/

namespace Certification

namespace Suites

variable {σ : Type}

/-! ### Routes -/

/-- The suite is observed while the resolver runs. -/
def IsObserved (s : Suites) (suite : String) : Prop :=
  ∃ spec, s.loadSpec suite = .ok spec ∧ spec.isRuntime s.settings.runtimeCategory = true

/-- The suite has a target that its first fixture names. -/
def IsRoutedTo (s : Suites) (suite : String) (source : FixtureSource) : Prop :=
  ∃ spec, s.loadSpec suite = .ok spec ∧ spec.isRuntime s.settings.runtimeCategory = false ∧
    spec.primaryFixture?.bind Fixture.source? = some source

/-- The path of a file of a suite. -/
def fixturePath (s : Suites) (suite file : String) : String := Location.join (s.directory suite) file

section Target

variable (s : Suites) (r : Resolver σ) (suite : String)

/-- The parser is called once, with the text of the file, if there are both. -/
theorem events_parseWorkflow_of_available {file text : String}
    {parser : String → σ → Answer (Except String ParseOutput) × σ}
    (ht : s.disk.readText (s.fixturePath suite file) = .ok text) (hp : r.parser = some parser)
    (state : σ) :
    (s.parseWorkflow r suite file state).events =
      [⟨.parse text, !(parser text state).1.isOk⟩] := by
  have hf : s.readFile .fixtureMissing (s.fixturePath suite file) = .ok text :=
    s.readFile_eq_ok_iff.mpr ht
  unfold parseWorkflow
  rw [← fixturePath, hf, hp]
  refine (Trial.events_bind_of_silent ?_ state).trans (Trial.events_ask _ _ state)
  intro result after
  cases result <;> rfl

private theorem events_parseWorkflow_of_lacking {file : String}
    (h : (∀ text, s.disk.readText (s.fixturePath suite file) ≠ .ok text) ∨ r.parser = none)
    (state : σ) : (s.parseWorkflow r suite file state).events = [] := by
  unfold parseWorkflow
  rw [← fixturePath]
  cases hf : s.readFile .fixtureMissing (s.fixturePath suite file) with
  | error fault => rfl
  | ok text =>
    rcases h with h | h
    · exact absurd (s.readFile_eq_ok_iff.mp hf) (h text)
    · rw [h]
      rfl

private theorem callsOnly_acquireTarget_of_not_isRuntime {spec : TestSpec}
    (h : spec.isRuntime s.settings.runtimeCategory = false) :
    (s.acquireTarget r suite spec).CallsOnly fun call ↦ ∃ text, call = .parse text := by
  unfold acquireTarget
  rw [if_neg (by simp [h])]
  split
  · exact .pure _
  · exact (Trial.CallsOnly.closed _).parseWorkflow (fun _ _ _ ↦ .ask ⟨_, rfl⟩ _) s suite _
  · exact .pure _

/-- What the parser makes of a workflow is a target of that shape. -/
theorem answersOnly_parseWorkflow (file : String) :
    (s.parseWorkflow r suite file).AnswersOnly fun acquired ↦
      ∀ target, acquired = .ok target → target.shape = .workflow := by
  unfold parseWorkflow
  split
  · exact .pure (by simp)
  · split
    · exact .pure (by simp)
    · refine .bind _ fun result ↦ ?_
      cases result with
      | error message => exact .pure (by simp)
      | ok output =>
        refine .pure ?_
        rintro target ⟨⟩
        rfl

/-! ### Faults -/

/-- The fault does not lie in the run. -/
def Harmless (fault : SuiteFault) : Prop := fault.isCrash = false

private theorem failsOnly_readFile {missing : String → SuiteFault}
    (h : ∀ path, Harmless (missing path))
    (path : String) : FailsOnly Harmless (s.readFile missing path) := by
  unfold readFile
  split
  · exact .ok _
  · exact .error (h path)
  · exact .error rfl

private theorem failsOnly_loadSpec : FailsOnly Harmless (s.loadSpec suite) := by
  refine .bind (s.failsOnly_readFile ?_ _) fun text ↦ .mapError ?_ _
  · intro path
    rfl
  · intro cause
    rfl

private theorem failsOnly_loadContract (file : String) :
    FailsOnly Harmless (s.loadContract suite file) := by
  refine .bind (s.failsOnly_readFile ?_ _) fun text ↦ .mapError ?_ _
  · intro path
    rfl
  · intro cause
    rfl

/-- A target that is not acquired does not crash the suite. -/
theorem answersOnly_acquireTarget (spec : TestSpec) :
    (s.acquireTarget r suite spec).AnswersOnly (FailsOnly Harmless) := by
  unfold acquireTarget
  split
  · exact .bind _ fun o ↦ .pure (.ok _)
  · split
    · exact .pure (.error rfl)
    · unfold parseWorkflow
      split
      · next fault hf =>
        have hmissing (path : String) : Harmless (.fixtureMissing path) := rfl
        exact .pure (.error (s.failsOnly_readFile hmissing _ fault hf))
      · split
        · exact .pure (.error rfl)
        · refine .bind _ fun result ↦ ?_
          cases result with
          | error message => exact .pure (.error rfl)
          | ok output => exact .pure (.ok _)
    · exact .pure ((s.failsOnly_loadContract suite _).map _)

end Target

/-! ### Evaluations -/

section Evaluate

variable (s : Suites) (r : Resolver σ) (suite : String) (state : σ)

private theorem answersIffCalm_evaluate : (s.evaluate r suite).AnswersIffCalm :=
  Trial.AnswersIffCalm.closed.evaluate (fun _ _ _ ↦ .ask _ _)
    (Trial.AnswersIffCalm.closed.observe (.ask _ _) (.ask _ _) (.ask _ _) (.ask _ _)) s suite

/-- A target that could not be acquired was not observed, so the resolver was not invoked. -/
theorem ne_invoke_of_acquireTarget_error {spec : TestSpec} {fault : SuiteFault}
    (h : (s.acquireTarget r suite spec state).answer = .ok (.error fault)) :
    ∀ e ∈ (s.acquireTarget r suite spec state).events, ∀ input, e.call ≠ .invoke input := by
  cases hr : spec.isRuntime s.settings.runtimeCategory with
  | true =>
    have hanswers : (s.acquireTarget r suite spec).AnswersOnly fun acquired ↦
        ∃ target, acquired = .ok target := by
      rw [s.acquireTarget_of_isRuntime r suite hr]
      exact .bind _ fun o ↦ .pure ⟨_, rfl⟩
    obtain ⟨target, ht⟩ := hanswers state _ h
    cases ht
  | false =>
    intro e he input hi
    obtain ⟨text, ht⟩ := s.callsOnly_acquireTarget_of_not_isRuntime r suite hr state e he
    rw [ht] at hi
    cases hi

/-- How the run of a suite may end, with what that tells about the calls that were made. -/
inductive Ends : SuiteOutcome → Prop where
  /-- The target was acquired, and everything that is asserted of it holds. -/
  | passed {spec : TestSpec} {target : Target} (hspec : s.loadSpec suite = .ok spec)
      (htarget : (s.acquireTarget r suite spec state).answer = .ok (.ok target))
      (hcalm : (s.evaluate r suite state).Calm) (hok : (judge spec.assertions target).ok = true) :
      Ends ⟨suite, spec.testId, some target.shape, .passed, .zero⟩
  /-- The target was acquired, and something that is asserted of it does not hold. -/
  | failed {spec : TestSpec} {target : Target} (hspec : s.loadSpec suite = .ok spec)
      (htarget : (s.acquireTarget r suite spec state).answer = .ok (.ok target))
      (hcalm : (s.evaluate r suite state).Calm) (hok : (judge spec.assertions target).ok = false) :
      Ends ⟨suite, spec.testId, some target.shape, .failed (judge spec.assertions target), .zero⟩
  /-- The specification or the target could not be loaded, and the resolver was not invoked. -/
  | notLoaded {fault : SuiteFault} (hcalm : (s.evaluate r suite state).Calm)
      (hinvoke : ∀ e ∈ (s.evaluate r suite state).events, ∀ input, e.call ≠ .invoke input) :
      Ends ⟨suite, none, none, .loadFailed fault.message, .zero⟩
  /-- The resolver panicked. -/
  | crashed {reason : String} (hpanic : ¬ (s.evaluate r suite state).Calm) :
      Ends ⟨suite, none, none, .crashed reason, .zero⟩

private theorem outcomeOf_harmless {fault : SuiteFault} (h : Harmless fault) :
    outcomeOf suite (.ok (.error fault)) =
      ⟨suite, none, none, .loadFailed fault.message, .zero⟩ := by
  have hf : fault.isCrash = false := h
  simp [outcomeOf, statusOfFault, hf]

/-- The run of a suite ends in one of these ways. -/
theorem ends_attempt : s.Ends r suite state (s.attempt r suite state).outcome := by
  have hcalm := s.answersIffCalm_evaluate r suite state
  change s.Ends r suite state (outcomeOf suite (s.evaluate r suite state).answer)
  cases hspec : s.loadSpec suite with
  | error fault =>
    have hrun := s.evaluate_of_loadSpec_error r suite state hspec
    rw [hrun, outcomeOf_harmless suite (s.failsOnly_loadSpec suite fault hspec)]
    refine .notLoaded (hcalm.mp ⟨_, congrArg Trace.answer hrun⟩) ?_
    rw [hrun]
    intro e he
    cases he
  | ok spec =>
    have hrun := s.evaluate_of_loadSpec_ok r suite state hspec
    have hanswer := congrArg Trace.answer hrun
    cases hacquired : (s.acquireTarget r suite spec state).answer with
    | error panic =>
      simp only [hacquired] at hanswer
      rw [hanswer]
      refine .crashed fun h ↦ ?_
      obtain ⟨a, ha⟩ := hcalm.mpr h
      rw [hanswer] at ha
      cases ha
    | ok acquired =>
      simp only [hacquired] at hanswer
      have hc := hcalm.mp ⟨_, hanswer⟩
      rw [hanswer]
      cases acquired with
      | error fault =>
        have hf := s.answersOnly_acquireTarget r suite spec state _ hacquired fault rfl
        change s.Ends r suite state (outcomeOf suite (.ok (.error fault)))
        rw [outcomeOf_harmless suite hf]
        refine .notLoaded hc ?_
        rw [hrun]
        exact s.ne_invoke_of_acquireTarget_error r suite state hacquired
      | ok target =>
        change s.Ends r suite state
          ⟨suite, spec.testId, some target.shape, statusOf (judge spec.assertions target), .zero⟩
        cases hok : (judge spec.assertions target).ok with
        | true =>
          rw [statusOf, if_pos hok]
          exact .passed hspec hacquired hc hok
        | false =>
          rw [statusOf, if_neg (by simp [hok])]
          exact .failed hspec hacquired hc hok

section Ends

variable {s r suite state} {o : SuiteOutcome}

private theorem not_exists_panicked {t : Trace σ (Except SuiteFault Evaluation)} (h : t.Calm) :
    ¬ ∃ e ∈ t.events, e.panicked = true := by
  rintro ⟨e, he, hp⟩
  rw [h e he] at hp
  cases hp

/-- A suite crashes exactly when the resolver panics in one of the calls. -/
theorem Ends.crashed_iff (h : s.Ends r suite state o) :
    (∃ reason, o.status = .crashed reason) ↔
      ∃ e ∈ (s.evaluate r suite state).events, e.panicked = true := by
  cases h with
  | passed _ _ hcalm => exact iff_of_false (by simp) (not_exists_panicked hcalm)
  | failed _ _ hcalm => exact iff_of_false (by simp) (not_exists_panicked hcalm)
  | notLoaded hcalm => exact iff_of_false (by simp) (not_exists_panicked hcalm)
  | crashed hpanic =>
    refine iff_of_true ⟨_, rfl⟩ ?_
    by_contra hnone
    refine hpanic fun e he ↦ ?_
    cases hp : e.panicked with
    | false => rfl
    | true => exact absurd ⟨e, he, hp⟩ hnone

private theorem Ends.ne_invoke (h : s.Ends r suite state o) {reason : String}
    (ho : o.status = .loadFailed reason) :
    ∀ e ∈ (s.evaluate r suite state).events, ∀ input, e.call ≠ .invoke input := by
  cases h with
  | passed => cases ho
  | failed => cases ho
  | notLoaded _ hinvoke => exact hinvoke
  | crashed => cases ho

private theorem Ends.isSome_target_iff (h : s.Ends r suite state o) :
    o.target.isSome = true ↔ o.status = .passed ∨ ∃ verdict, o.status = .failed verdict := by
  cases h <;> simp

private theorem Ends.testId_eq_none (h : s.Ends r suite state o) (ho : o.target = none) :
    o.testId = none := by
  cases h with
  | passed => cases ho
  | failed => cases ho
  | notLoaded => rfl
  | crashed => rfl

/-- A suite that names its target was judged by the verdict on that target. -/
theorem Ends.exists_verdict (h : s.Ends r suite state o) {shape : TargetShape}
    (ho : o.target = some shape) :
    ∃ spec target, s.loadSpec suite = .ok spec ∧
      (s.acquireTarget r suite spec state).answer = .ok (.ok target) ∧ target.shape = shape ∧
      o.testId = spec.testId ∧ (o.status = .passed ↔ (judge spec.assertions target).ok = true) ∧
      ∀ verdict, o.status = .failed verdict →
        verdict = judge spec.assertions target ∧ verdict.failures ≠ [] := by
  cases h with
  | @passed spec target hspec htarget _ hok =>
    refine ⟨spec, target, hspec, htarget, Option.some.inj ho, rfl, iff_of_true rfl hok, ?_⟩
    rintro verdict ⟨⟩
  | @failed spec target hspec htarget _ hok =>
    refine ⟨spec, target, hspec, htarget, Option.some.inj ho, rfl, by simp [hok], ?_⟩
    rintro verdict ⟨⟩
    refine ⟨rfl, ?_⟩
    rw [ne_eq, ← ok_judge_iff, hok]
    exact Bool.false_ne_true
  | notLoaded => cases ho
  | crashed => cases ho

end Ends

/-! ### Calls -/

/-- A target that is a declaration was acquired without a call. -/
theorem events_acquireTarget_of_metadata {spec : TestSpec} {target : Target}
    (h : (s.acquireTarget r suite spec state).answer = .ok (.ok target))
    (hs : target.shape = .metadata) : (s.acquireTarget r suite spec state).events = [] := by
  cases hr : spec.isRuntime s.settings.runtimeCategory with
  | true =>
    have hanswers : (s.acquireTarget r suite spec).AnswersOnly fun acquired ↦
        ∃ o, acquired = .ok (.runtime o) := by
      rw [s.acquireTarget_of_isRuntime r suite hr]
      exact .bind _ fun o ↦ .pure ⟨o, rfl⟩
    obtain ⟨o, ho⟩ := hanswers state _ h
    cases ho
    cases hs
  | false =>
    by_cases hw : ∃ file, spec.primaryFixture?.bind Fixture.source? = some (.workflow file)
    · obtain ⟨file, hf⟩ := hw
      have hanswers : (s.acquireTarget r suite spec).AnswersOnly fun acquired ↦
          ∀ target, acquired = .ok target → target.shape = .workflow := by
        rw [s.acquireTarget_of_workflow r suite hr hf]
        exact s.answersOnly_parseWorkflow r suite file
      rw [hanswers state _ h target rfl] at hs
      cases hs
    · obtain ⟨acquired, hpure⟩ := s.acquireTarget_of_no_workflow r suite hr
        fun file hf ↦ hw ⟨file, hf⟩
      rw [hpure]
      rfl

private theorem events_evaluate_of_resolverContract {file : String}
    (h : s.IsRoutedTo suite (.resolverContract file)) :
    (s.evaluate r suite state).events = [] := by
  obtain ⟨spec, hspec, hr, hs⟩ := h
  obtain ⟨acquired, hpure⟩ := s.acquireTarget_of_no_workflow r suite hr fun file' hf ↦ by
    rw [hs] at hf
    cases hf
  rw [s.evaluate_of_loadSpec_ok r suite state hspec, hpure]
  rfl

private theorem events_evaluate_of_workflow {file : String}
    (h : s.IsRoutedTo suite (.workflow file)) :
    (s.evaluate r suite state).events = (s.parseWorkflow r suite file state).events := by
  obtain ⟨spec, hspec, hr, hs⟩ := h
  rw [s.evaluate_of_loadSpec_ok r suite state hspec, s.acquireTarget_of_workflow r suite hr hs]

private theorem callsOnly_evaluate_of_isObserved (h : s.IsObserved suite) :
    ∀ e ∈ (s.evaluate r suite state).events, Resolver.Observes e.call := by
  obtain ⟨spec, hspec, hr⟩ := h
  rw [s.evaluate_of_loadSpec_ok r suite state hspec, s.acquireTarget_of_isRuntime r suite hr]
  exact Trial.CallsOnly.bind (r.callsOnly_observe _) (fun o ↦ .pure _) state

end Evaluate

/-- The run of a suite ends with an outcome, whatever the resolver does. It has crashed exactly when
the resolver panicked in one of the calls; it was not loaded only without an invocation; and exactly
when it passed or failed it names its target, and its specification's identifier, and then it passed
exactly when the verdict on that target is positive. A suite with a declaration makes no call, one
with a workflow makes none but of the parser, with the text of the file, and one that is observed
never calls the parser. -/
theorem runSuite_contained (s : Suites) (r : Resolver σ) (suite : String) (state : σ) :
    ∃ outcome after events, s.runSuite r suite state = ⟨.ok outcome, after, events⟩ ∧
      outcome.suite = suite ∧ outcome.status ≠ .skipped ∧
      ((∃ reason, outcome.status = .crashed reason) ↔ ∃ e ∈ events, e.panicked = true) ∧
      (∀ reason, outcome.status = .loadFailed reason →
        ∀ e ∈ events, ∀ input, e.call ≠ .invoke input) ∧
      (outcome.target.isSome = true ↔
        outcome.status = .passed ∨ ∃ verdict, outcome.status = .failed verdict) ∧
      (outcome.target = none → outcome.testId = none) ∧
      (∀ shape, outcome.target = some shape → ∃ spec target, s.loadSpec suite = .ok spec ∧
        (s.acquireTarget r suite spec state).answer = .ok (.ok target) ∧ target.shape = shape ∧
        outcome.testId = spec.testId ∧
        (outcome.status = .passed ↔ (judge spec.assertions target).ok = true) ∧
        ∀ verdict, outcome.status = .failed verdict →
          verdict = judge spec.assertions target ∧ verdict.failures ≠ []) ∧
      (outcome.target = some .metadata → events = []) ∧
      (∀ file, s.IsRoutedTo suite (.resolverContract file) → events = []) ∧
      (∀ file, s.IsRoutedTo suite (.workflow file) →
        (∀ e ∈ events, ∃ text,
          s.disk.readText (s.fixturePath suite file) = .ok text ∧ e.call = .parse text) ∧
        events.length ≤ 1 ∧
        (events.length = 1 ↔
          (∃ text, s.disk.readText (s.fixturePath suite file) = .ok text) ∧
            r.parser.isSome = true)) ∧
      (s.IsObserved suite → ∀ e ∈ events, ∀ source, e.call ≠ .parse source) := by
  have hends := s.ends_attempt r suite state
  refine ⟨_, _, _, s.runSuite_eq_attempt r suite state, s.suite_attempt r suite state,
    s.status_attempt_ne_skipped r suite state, hends.crashed_iff, fun _ ↦ hends.ne_invoke,
    hends.isSome_target_iff, hends.testId_eq_none, fun _ ↦ hends.exists_verdict, ?_, ?_, ?_, ?_⟩
  · intro ho
    obtain ⟨spec, target, hspec, htarget, hshape, -⟩ := hends.exists_verdict ho
    have hcalls := s.events_acquireTarget_of_metadata r suite state htarget hshape
    exact (congrArg Trace.events (s.evaluate_of_loadSpec_ok r suite state hspec)).trans hcalls
  · intro file h
    exact s.events_evaluate_of_resolverContract r suite state h
  · intro file h
    change (∀ e ∈ (s.evaluate r suite state).events, _) ∧
      (s.evaluate r suite state).events.length ≤ 1 ∧
      ((s.evaluate r suite state).events.length = 1 ↔ _)
    rw [s.events_evaluate_of_workflow r suite state h]
    by_cases hboth : (∃ text, s.disk.readText (s.fixturePath suite file) = .ok text) ∧
        r.parser.isSome = true
    · obtain ⟨⟨text, htext⟩, hparser⟩ := hboth
      obtain ⟨parser, hp⟩ := Option.isSome_iff_exists.mp hparser
      rw [s.events_parseWorkflow_of_available r suite htext hp state]
      refine ⟨?_, Nat.le_refl 1, iff_of_true rfl ⟨⟨text, htext⟩, hparser⟩⟩
      intro e he
      rw [List.mem_singleton.mp he]
      exact ⟨text, htext, rfl⟩
    · have hmissing : (∀ text, s.disk.readText (s.fixturePath suite file) ≠ .ok text) ∨
          r.parser = none := by
        simpa [← not_exists, imp_iff_not_or] using hboth
      rw [s.events_parseWorkflow_of_lacking r suite hmissing state]
      refine ⟨?_, Nat.zero_le 1, iff_of_false Nat.zero_ne_one hboth⟩
      intro e he
      cases he
  · intro h e he source hsource
    have hobserves := s.callsOnly_evaluate_of_isObserved r suite state h e he
    rw [hsource] at hobserves
    exact hobserves

end Suites

end Certification
