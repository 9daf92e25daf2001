import Certification.Proofs.Observation.Rounds
import Certification.Proofs.Resolver.Discipline
import Certification.Proofs.Suite.Attempts
import Certification.Proofs.Suite.Evaluation
import Certification.Proofs.Verdict

/-!
# Observed suites

A suite of the runtime category is judged by an observation, and how often that invokes the resolver
decides what can be asserted of it. One invocation is enough for the resolver to be callable, and
two are needed for outputs to be compared. `Suites.runSuite_observed` counts the invocations of a
suite among its calls and draws these consequences from the count, whatever the settings are.
-/

namespace Certification

variable {σ α : Type}

/-! ### Invocations among calls -/

/-- Whether the call invokes the resolver. -/
def Call.isInvoke : Call → Bool
  | .invoke _ => true
  | _ => false

/-- How many of some calls invoke the resolver. -/
def invocationsIn (events : List Event) : Nat := events.countP (·.call.isInvoke)

private theorem invocationsIn_append (earlier later : List Event) :
    invocationsIn (earlier ++ later) = invocationsIn earlier + invocationsIn later :=
  List.countP_append

private theorem Trial.CallsOnly.invocationsIn_eq_zero {m : Trial σ α}
    (h : m.CallsOnly fun call ↦ call.isInvoke = false) (state : σ) :
    invocationsIn (m state).events = 0 := by
  apply List.countP_eq_zero.mpr
  intro e he
  simp [h state e he]

namespace Resolver

variable (r : Resolver σ) (repetition : Repetition) (state : σ)

/-- The state in which the rounds of an observation begin: the resolver has been asked for metadata
and for a fingerprint. -/
def readyState : σ := (r.fingerprint (r.declaredMetadata state).state).2

private theorem invocationsIn_declaredMetadata :
    invocationsIn (r.declaredMetadata state).events = 0 := by
  have hdeclaration : Call.declaration.isInvoke = false := rfl
  have hdescribe : Call.describe.isInvoke = false := rfl
  have hcalls : r.declaredMetadata.CallsOnly fun call ↦ call.isInvoke = false :=
    (Trial.CallsOnly.closed fun call ↦ call.isInvoke = false).declaredMetadata
      (.ask hdeclaration _) (.ask hdescribe _)
  exact hcalls.invocationsIn_eq_zero state

/-- An observation in which no call panics invokes the resolver up to the first invocation that
throws, and accounts for these invocations. -/
theorem observe_accounts (hcalm : (r.observe repetition state).Calm) :
    ∃ o, (r.observe repetition state).answer = .ok o ∧
      invocationsIn (r.observe repetition state).events =
        (r.settledUntilThrow repetition.count (r.readyState state)).length ∧
      o.Accounts (r.settledUntilThrow repetition.count (r.readyState state)) := by
  have hnone := r.invocationsIn_declaredMetadata state
  unfold readyState
  unfold observe at hcalm ⊢
  have hanswers : ∃ metadata, (r.declaredMetadata state).answer = .ok metadata :=
    (Trial.AnswersIffCalm.closed.declaredMetadata (.ask _ _) (.ask _ _) state).mpr
      (Trial.calm_of_calm_bind hcalm)
  rcases hasked : r.declaredMetadata state with ⟨answer, asked, events⟩
  rw [hasked] at hanswers hnone
  obtain ⟨metadata, rfl⟩ := hanswers
  obtain ⟨o, hanswer, hevents, hacc, -, -⟩ :=
    r.observeWith_accounts repetition metadata asked (Trial.calm_after_of_calm_bind hasked hcalm)
  rw [Trial.bind_apply_of_eq _ hasked]
  refine ⟨o, hanswer, ?_, hacc⟩
  rw [invocationsIn_append, hnone, hevents]
  simp [invocationsIn, List.countP_replicate, Call.isInvoke]

end Resolver

/-! ### Checks of an observation -/

namespace RuntimeCheck

/-- Outputs are deterministic when there are two of them or more, and all of them have one text. -/
theorem deterministicOutput_eq_true_iff (o : Observation) :
    deterministicOutput o = true ↔
      2 ≤ o.serializedOutputs.length ∧ ∃ text, ∀ t ∈ o.serializedOutputs, t = text := by
  unfold deterministicOutput
  split
  · next first second rest h =>
    rw [h, List.all_eq_true]
    constructor
    · intro hsame
      refine ⟨by simp, first, fun t ht ↦ ?_⟩
      rcases List.mem_cons.mp ht with rfl | ht
      · rfl
      · exact eq_of_beq (hsame t ht)
    · rintro ⟨-, text, htext⟩ t ht
      have hfirst := htext first List.mem_cons_self
      have ht' := htext t (List.mem_cons_of_mem _ ht)
      exact beq_of_eq (ht'.trans hfirst.symm)
  · next h =>
    refine iff_of_false Bool.false_ne_true ?_
    rintro ⟨hlen, -⟩
    match hs : o.serializedOutputs with
    | [] => simp [hs] at hlen
    | [_] => simp [hs] at hlen
    | first :: second :: rest => exact h first second rest hs

end RuntimeCheck

namespace Observation.Accounts

variable {o : Observation} {settled : List Settlement}

/-- After an invocation the resolver was callable. -/
theorem resolverCallable (h : o.Accounts settled) (hpos : 0 < settled.length) :
    RuntimeCheck.resolverCallable o = true := by
  have hinvoked : 0 < o.invocations := by rwa [h.invocations]
  exact h.callable.trans (decide_eq_true hinvoked)

private theorem two_le_of_deterministicOutput (h : o.Accounts settled)
    (hd : RuntimeCheck.deterministicOutput o = true) : 2 ≤ settled.length := by
  obtain ⟨hlen, -⟩ := (RuntimeCheck.deterministicOutput_eq_true_iff o).mp hd
  rw [h.serializedOutputs, List.length_map, h.outputs] at hlen
  have hkept := List.length_filterMap_le Settlement.output? settled
  omega

/-- Two invocations or more that all return one output are found to be deterministic. -/
theorem deterministicOutput (h : o.Accounts settled) (hlen : 2 ≤ settled.length) {output : Json}
    (hsame : ∀ e ∈ settled, e = .ok (.ok output)) :
    RuntimeCheck.deterministicOutput o = true := by
  have hsettled := List.eq_replicate_of_mem hsame
  have houtputs : o.outputs = List.replicate settled.length output := by
    have hreturned : Settlement.output? (.ok (.ok output)) = some output := rfl
    rw [h.outputs, hsettled, List.filterMap_replicate_of_some hreturned, List.length_replicate]
  rw [RuntimeCheck.deterministicOutput_eq_true_iff, h.serializedOutputs, houtputs,
    List.map_replicate, List.length_replicate]
  exact ⟨hlen, output.compact, fun t ↦ List.eq_of_mem_replicate⟩

end Observation.Accounts

namespace Resolver

variable {r : Resolver σ} {n : Nat} {state : σ} {o : Observation}

private theorem length_settledUntilThrow_of_forall
    (h : ∀ e ∈ r.settlements n state, e.throws = false) :
    (r.settledUntilThrow n state).length = n := by
  have hnone := List.findIdx_eq_length.mpr h
  rw [length_settledUntilThrow, hnone, length_settlements]
  omega

private theorem resolverCallable_of_pos (h : o.Accounts (r.settledUntilThrow n state))
    (hn : 0 < n) : RuntimeCheck.resolverCallable o = true := by
  have hlen := r.length_settledUntilThrow n state
  apply h.resolverCallable
  omega

private theorem two_le_of_deterministicOutput (h : o.Accounts (r.settledUntilThrow n state))
    (hd : RuntimeCheck.deterministicOutput o = true) : 2 ≤ n := by
  have hlen := r.length_settledUntilThrow n state
  have htwo := h.two_le_of_deterministicOutput hd
  omega

/-- A resolver that is asked for two invocations, and that would return one output each time, is
found to be deterministic. -/
theorem deterministicOutput_of_forall (h : o.Accounts (r.settledUntilThrow n state)) (hn : 2 ≤ n)
    {output : Json} (hsame : ∀ e ∈ r.settlements n state, e = .ok (.ok output)) :
    RuntimeCheck.deterministicOutput o = true := by
  have hlen : (r.settledUntilThrow n state).length = n := by
    apply length_settledUntilThrow_of_forall
    intro e he
    rw [hsame e he]
    rfl
  apply h.deterministicOutput
  · rw [hlen]
    exact hn
  · intro e he
    exact hsame e (List.mem_of_mem_take he)

end Resolver

private theorem Assertion.isSatisfied_runtime_iff {a : Assertion} {kind : AssertionKind}
    {o : Observation}
    {check : Observation → Bool} (h : a.kind = kind.name) (hs : kind.shape = .runtime)
    (hc : kind.check (.runtime o) a = .ok (check o)) :
    a.IsSatisfied (.runtime o) ↔ check o = true := by
  have hshape : kind.shape = (Target.runtime o).shape := hs
  rw [isSatisfied_iff_check h hshape, hc, Except.ok.injEq]

private theorem Repetition.count_forSuite (testId : Option String) (settings : Settings) :
    (forSuite testId settings).count =
      if testId = some settings.determinismSuite then max settings.determinismRepetitions 2
      else 1 := by
  unfold forSuite
  split <;> rfl

private theorem Repetition.count_forSuite_pos (testId : Option String) (settings : Settings) :
    0 < (forSuite testId settings).count := by
  rw [count_forSuite]
  split <;> omega

private theorem Repetition.eq_of_two_le_count_forSuite {testId : Option String}
    {settings : Settings}
    (h : 2 ≤ (forSuite testId settings).count) : testId = some settings.determinismSuite := by
  by_contra hother
  rw [count_forSuite, if_neg hother] at h
  omega

/-! ### Suites -/

namespace Suites

/-- An observed suite in which no call panics is judged by an observation that accounts for the
invocations up to the first one that throws. -/
theorem runSuite_of_isRuntime (s : Suites) (r : Resolver σ) (suite : String) (state : σ)
    {spec : TestSpec} (hspec : s.loadSpec suite = .ok spec)
    (hruntime : spec.isRuntime s.settings.runtimeCategory = true)
    (hcalm : (s.runSuite r suite state).Calm) :
    let settled := r.settledUntilThrow (Repetition.forSuite spec.testId s.settings).count
      (r.readyState state)
    ∃ o, (s.acquireTarget r suite spec state).answer = .ok (.ok (.runtime o)) ∧
      (s.runSuite r suite state).answer =
        .ok ⟨suite, spec.testId, some .runtime, statusOf (judge spec.assertions (.runtime o)),
          .zero⟩ ∧
      invocationsIn (s.runSuite r suite state).events = settled.length ∧ o.Accounts settled := by
  intro settled
  have hrun := s.runSuite_eq_attempt r suite state
  unfold attempt at hrun
  rw [s.evaluate_of_loadSpec_ok r suite state hspec] at hrun
  rw [s.acquireTarget_of_isRuntime r suite hruntime] at hrun ⊢
  rw [hrun] at hcalm ⊢
  have hquiet := Trial.calm_of_calm_bind hcalm
  obtain ⟨o, hanswer, hcount, hacc⟩ := r.observe_accounts _ state hquiet
  rcases hobserve : r.observe (.forSuite spec.testId s.settings) state with ⟨answer, after, events⟩
  rw [hobserve] at hanswer hcount
  subst hanswer
  rw [Trial.bind_apply_of_eq _ hobserve]
  refine ⟨o, rfl, rfl, ?_, hacc⟩
  rw [← hcount]
  exact congrArg invocationsIn (List.append_nil events)

/-- What a suite of the runtime category comes to if no call panics. It invokes the resolver as
often as its identifier asks for, at least twice for determinism and once otherwise, but no more
after an error, and it is judged by what was observed. So the resolver was callable, and assertions
of that leave no failure; outputs are found to be deterministic in no suite but the one for
determinism, and there they are when each invocation returns the same one. -/
theorem runSuite_observed (s : Suites) (r : Resolver σ) (suite : String) (state : σ)
    {spec : TestSpec} (hspec : s.loadSpec suite = .ok spec)
    (hruntime : spec.isRuntime s.settings.runtimeCategory = true)
    (hcalm : ∀ e ∈ (s.runSuite r suite state).events, e.panicked = false) :
    let n := if spec.testId = some s.settings.determinismSuite then
      max s.settings.determinismRepetitions 2 else 1
    let settled := r.settlements n (r.readyState state)
    invocationsIn (s.runSuite r suite state).events =
      min n (settled.findIdx Settlement.throws + 1) ∧
    ∃ o, (s.acquireTarget r suite spec state).answer = .ok (.ok (.runtime o)) ∧
      (s.runSuite r suite state).answer =
        .ok ⟨suite, spec.testId, some .runtime, statusOf (judge spec.assertions (.runtime o)),
          .zero⟩ ∧
      o.invocations = invocationsIn (s.runSuite r suite state).events ∧
      (∀ a : Assertion, a.kind = AssertionKind.resolverCallable.name →
        a.IsSatisfied (.runtime o)) ∧
      (judge spec.assertions (.runtime o)).failures =
        (judge (spec.assertions.filter (·.kind ≠ AssertionKind.resolverCallable.name))
          (.runtime o)).failures ∧
      (∀ a : Assertion, a.kind = AssertionKind.deterministicOutput.name →
        a.IsSatisfied (.runtime o) → spec.testId = some s.settings.determinismSuite) ∧
      (spec.testId = some s.settings.determinismSuite → ∀ output : Json,
        (∀ e ∈ settled, e = .ok (.ok output)) →
          ∀ a : Assertion, a.kind = AssertionKind.deterministicOutput.name →
            a.IsSatisfied (.runtime o)) := by
  intro n settled
  have hn : (Repetition.forSuite spec.testId s.settings).count = n :=
    Repetition.count_forSuite spec.testId s.settings
  obtain ⟨o, htarget, hanswer, hmade, hacc⟩ :=
    s.runSuite_of_isRuntime r suite state hspec hruntime hcalm
  have hcount := hmade.trans (r.length_settledUntilThrow _ _)
  rw [hn] at hcount
  have hcallable : ∀ a : Assertion, a.kind = AssertionKind.resolverCallable.name →
      a.IsSatisfied (.runtime o) := by
    intro a ha
    apply (Assertion.isSatisfied_runtime_iff ha rfl rfl).mpr
    exact Resolver.resolverCallable_of_pos hacc (Repetition.count_forSuite_pos _ _)
  refine ⟨hcount, o, htarget, hanswer, hacc.invocations.trans hmade.symm, hcallable, ?_, ?_, ?_⟩
  · symm
    apply failures_judge_filter
    intro a _ ha
    exact hcallable a (by simpa using ha)
  · intro a ha hsatisfied
    have hd := (Assertion.isSatisfied_runtime_iff ha rfl rfl).mp hsatisfied
    exact Repetition.eq_of_two_le_count_forSuite (Resolver.two_le_of_deterministicOutput hacc hd)
  · intro hdeterminism output hsame a ha
    have htwo := Repetition.two_le_count_forSuite s.settings
    rw [← hdeterminism] at htwo
    apply (Assertion.isSatisfied_runtime_iff ha rfl rfl).mpr
    apply Resolver.deterministicOutput_of_forall hacc htwo
    rw [hn]
    exact hsame

/-- A script that returns the same output each time. -/
def constant : Script where
  name := "constant"
  replies := [.returns (.bool true)]
  declaration := none
  description := none
  fingerprints := none
  parser := none

/-- A directory with one suite, which is the one for determinism, and settings that ask for no
repetition at all. -/
def repeating : Suites where
  disk := ⟨"/work", [(["s"], .directory), (["s", "test.json"], .file (Text.Utf8.encode
    "[\"D\",\"r\",null,[[]],[[\"A\",\"deterministic_output\"],[\"B\",\"resolver_callable\"]]]"))]⟩
  root := "."
  settings := { Settings.default with
    runtimeCategory := "r", determinismSuite := "D", determinismRepetitions := 0 }

/-- The specification of that suite. -/
def repeatingSpec : TestSpec where
  testId := some "D"
  category := some "r"
  description := none
  fixtures := ⟨[]⟩
  assertions := [Assertion.new "A" "deterministic_output", Assertion.new "B" "resolver_callable"]

/-- The suite invokes the script twice all the same, and passes. -/
theorem runSuite_observed_constant :
    repeating.loadSpec "s" = .ok repeatingSpec ∧
    repeatingSpec.isRuntime repeating.settings.runtimeCategory = true ∧
    (∀ e ∈ (repeating.runSuite constant.resolver "s" Script.start).events, e.panicked = false) ∧
    invocationsIn (repeating.runSuite constant.resolver "s" Script.start).events = 2 ∧
    (repeating.runSuite constant.resolver "s" Script.start).answer =
      .ok ⟨"s", some "D", some .runtime, .passed, .zero⟩ := by
  have hspec : repeating.loadSpec "s" = .ok repeatingSpec := eq_ok_of_toOption (by decide +kernel)
  have hruntime : repeatingSpec.isRuntime repeating.settings.runtimeCategory = true := rfl
  have hcalm : ∀ e ∈ (repeating.runSuite constant.resolver "s" Script.start).events,
      e.panicked = false := by decide +kernel
  obtain ⟨hcount, o, -, hanswer, -, hcallable, -, -, hdeterministic⟩ :=
    runSuite_observed repeating constant.resolver "s" Script.start hspec hruntime hcalm
  have hok : (judge repeatingSpec.assertions (.runtime o)).ok = true := by
    apply (ok_judge_iff_forall _ _).mpr
    intro a ha
    rcases List.mem_pair.mp ha with rfl | rfl
    · exact hdeterministic rfl (.bool true) (by decide) _ rfl
    · exact hcallable _ rfl
  refine ⟨hspec, hruntime, hcalm, hcount, ?_⟩
  rw [hanswer, statusOf, if_pos hok]
  rfl

end Suites

end Certification
