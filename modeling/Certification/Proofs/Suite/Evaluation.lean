import Certification.Proofs.Resolver.Discipline
import Certification.Suite.Run

/-!
# Evaluating a suite

How the evaluation of a suite is put together: from what specification, from which kind of target,
and by which calls. What is closed under putting trials together holds of an evaluation when it
holds of the calls that an evaluation may make.
-/

namespace Certification

variable {σ : Type}

namespace Suites

/-! ### Files and targets -/

section Target

variable (s : Suites) (r : Resolver σ) (suite : String)

/-- A file is read when its text can be read. -/
theorem readFile_eq_ok_iff {missing : String → SuiteFault} {path text : String} :
    s.readFile missing path = .ok text ↔ s.disk.readText path = .ok text := by
  unfold readFile
  split
  · next h => rw [h, Except.ok.injEq, Except.ok.injEq]
  · next h => simp [h]
  · next h => simp [h]

/-- The target of an observed suite is the observation. -/
theorem acquireTarget_of_isRuntime {spec : TestSpec}
    (h : spec.isRuntime s.settings.runtimeCategory = true) :
    s.acquireTarget r suite spec =
      r.observe (.forSuite spec.testId s.settings) >>= fun o ↦ pure (.ok (.runtime o)) := by
  rw [acquireTarget, if_pos h]

/-- The target of a suite with a workflow is what the parser makes of it. -/
theorem acquireTarget_of_workflow {spec : TestSpec} {file : String}
    (h : spec.isRuntime s.settings.runtimeCategory = false)
    (hs : spec.primaryFixture?.bind Fixture.source? = some (.workflow file)) :
    s.acquireTarget r suite spec = s.parseWorkflow r suite file := by
  rw [acquireTarget, if_neg (by simp [h]), hs]

/-- The target of a suite with neither an observation nor a workflow is found without a call. -/
theorem acquireTarget_of_no_workflow {spec : TestSpec}
    (h : spec.isRuntime s.settings.runtimeCategory = false)
    (hs : ∀ file, spec.primaryFixture?.bind Fixture.source? ≠ some (.workflow file)) :
    ∃ acquired, s.acquireTarget r suite spec = pure acquired := by
  unfold acquireTarget
  rw [if_neg (by simp [h])]
  split
  · exact ⟨_, rfl⟩
  · next file hf => exact absurd hf (hs file)
  · exact ⟨_, rfl⟩

end Target

/-! ### Evaluations -/

section Evaluate

variable (s : Suites) (r : Resolver σ) (suite : String) (state : σ)

/-- Without a specification nothing is called. -/
theorem evaluate_of_loadSpec_error {fault : SuiteFault} (h : s.loadSpec suite = .error fault) :
    s.evaluate r suite state = ⟨.ok (.error fault), state, []⟩ := by
  unfold evaluate
  rw [h]
  rfl

/-- With a specification the target is acquired, and judged if that succeeds. -/
theorem evaluate_of_loadSpec_ok {spec : TestSpec} (h : s.loadSpec suite = .ok spec) :
    s.evaluate r suite state =
      ⟨(s.acquireTarget r suite spec state).answer.map fun acquired ↦
          acquired.map fun target ↦ ⟨spec.testId, target.shape, judge spec.assertions target⟩,
        (s.acquireTarget r suite spec state).state,
        (s.acquireTarget r suite spec state).events⟩ := by
  unfold evaluate
  rw [h]
  dsimp only
  rcases hrun : s.acquireTarget r suite spec state with ⟨answer, after, events⟩
  cases answer with
  | error panic =>
    rw [Trial.bind_apply_of_error _ hrun]
    rfl
  | ok acquired =>
    rw [Trial.bind_apply_of_eq _ hrun]
    cases acquired with
    | error fault => simp [Except.map, pure, Trial.pure]
    | ok target => simp [Except.map, pure, Trial.pure]

end Evaluate

end Suites

/-! ### Calls -/

namespace Trial.Closed

variable {P : (α : Type) → Trial σ α → Prop} (h : Closed P) {r : Resolver σ}
  (hparse : ∀ parser, r.parser = some parser → ∀ source, P _ (Resolver.tryParse parser source))

include h hparse

/-- What holds of a call of the parser holds of parsing a workflow. -/
theorem parseWorkflow (s : Suites) (suite file : String) : P _ (s.parseWorkflow r suite file) := by
  unfold Suites.parseWorkflow
  split
  · exact h.pure _
  · split
    · exact h.pure _
    · next parser hp =>
      refine h.bind (hparse parser hp _) fun result ↦ ?_
      cases result with
      | error message => exact h.pure _
      | ok output => exact h.pure _

/-- What holds of observations and of calls of the parser holds of acquiring a target. -/
theorem acquireTarget (hobserve : ∀ repetition, P _ (r.observe repetition)) (s : Suites)
    (suite : String) (spec : TestSpec) : P _ (s.acquireTarget r suite spec) := by
  unfold Suites.acquireTarget
  split
  · exact h.bind (hobserve _) fun _ ↦ h.pure _
  · split
    · exact h.pure _
    · exact h.parseWorkflow hparse s suite _
    · exact h.pure _

/-- What holds of observations and of calls of the parser holds of evaluating a suite. -/
theorem evaluate (hobserve : ∀ repetition, P _ (r.observe repetition)) (s : Suites)
    (suite : String) : P _ (s.evaluate r suite) := by
  unfold Suites.evaluate
  split
  · exact h.pure _
  · refine h.bind (h.acquireTarget hparse hobserve s suite _) fun acquired ↦ ?_
    cases acquired with
    | error fault => exact h.pure _
    | ok target => exact h.pure _

end Trial.Closed

end Certification
