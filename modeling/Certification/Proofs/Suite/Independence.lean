import Certification.Proofs.Chain
import Certification.Proofs.Resolver.Steady
import Certification.Proofs.Suite.Bookkeeping
import Certification.Proofs.Suite.Evaluation

/-!
# Independence of suites

A suite reads its own files and asks the resolver, and nothing of it stays behind but the state of
the resolver. So with a steady resolver a suite comes to the same outcome by the same calls wherever
in a run it stands, whatever has become of the suites before it. `Suites.run_independent` draws the
consequences for runs that go on after a failure.
-/

namespace Certification

namespace Suites

variable {σ : Type} (s : Suites) {r : Resolver σ} {start : σ}

section Steady

variable (h : r.IsSteady start) (suite : String)

include h

private theorem runsAlike_evaluate : (s.evaluate r suite).RunsAlike r start :=
  Trial.RunsAlike.closed.evaluate (fun _ hp source ↦ h.runsAlike_tryParse hp source)
    h.runsAlike_observe s suite

private theorem attempt_of_reaches {state : σ} (hs : r.Reaches start state) :
    (s.attempt r suite state).outcome = (s.attempt r suite start).outcome ∧
      (s.attempt r suite state).events = (s.attempt r suite start).events ∧
      r.Reaches start (s.attempt r suite state).state := by
  obtain ⟨answer, events, halike⟩ := s.runsAlike_evaluate h suite
  obtain ⟨ha, he, hafter⟩ := halike state hs
  obtain ⟨ha', he', -⟩ := halike start .start
  exact ⟨congrArg (outcomeOf suite) (ha.trans ha'.symm), he.trans he'.symm, hafter⟩

private theorem map_outcome_attempts (suites : List String) {state : σ}
    (hs : r.Reaches start state) : (s.attempts r suites state).map Attempt.outcome =
      suites.map fun suite ↦ (s.attempt r suite start).outcome := by
  induction suites generalizing state with
  | nil => rfl
  | cons suite rest ih =>
    -- Another state is left for the rest, but it is one that calls lead to.
    obtain ⟨houtcome, -, hafter⟩ := s.attempt_of_reaches h suite hs
    rw [attempts, List.map_cons, List.map_cons, houtcome, ih hafter]

private theorem flatMap_events_attempts (suites : List String) {state : σ}
    (hs : r.Reaches start state) : (s.attempts r suites state).flatMap Attempt.events =
      suites.flatMap fun suite ↦ (s.attempt r suite start).events := by
  induction suites generalizing state with
  | nil => rfl
  | cons suite rest ih =>
    obtain ⟨-, hevents, hafter⟩ := s.attempt_of_reaches h suite hs
    rw [attempts, List.flatMap_cons, List.flatMap_cons, hevents, ih hafter]

end Steady

/-- A run that goes on after a failure, put together from what the suites do at the start. -/
theorem exists_run_of_isSteady (h : r.IsSteady start) (hc : s.settings.continueOnFailure = true)
    (suites : List String) (startedAt completedAt : Timestamp) :
    ∃ run, (s.run r suites startedAt completedAt start).answer = .ok run ∧
      run.outcomes = suites.map (fun suite ↦ (s.attempt r suite start).outcome) ∧
      run.failed = suites.countP (fun suite ↦ (s.attempt r suite start).failed) ∧
      (s.run r suites startedAt completedAt start).events =
        suites.flatMap fun suite ↦ (s.attempt r suite start).events := by
  have hmade : s.made 0 (s.attempts r suites start) = s.attempts r suites start := by
    rw [made, reach_zero, if_pos hc, List.take_length]
  have hrun := s.run_eq r suites startedAt completedAt start
  rw [hmade] at hrun
  refine ⟨_, congrArg Trace.answer hrun, ?_, ?_, ?_⟩
  · exact (s.outcomes_of_continueOnFailure r suites start hc).trans
      (s.map_outcome_attempts h suites .start)
  · have hcount := congrArg (List.countP (·.status.isFailed))
      (s.map_outcome_attempts h suites .start)
    rwa [List.countP_map, List.countP_map] at hcount
  · exact (congrArg Trace.events hrun).trans (s.flatMap_events_attempts h suites .start)

/-- Against a steady resolver every suite has one outcome of its own, which it has when it is run
alone, and after any calls. Every run that goes on after a failure lists these outcomes for its
suites and makes the calls that they make alone. So a suite that is named again has its outcome
again, and when the suites are put into another order the outcomes are, while the number of failures
and the certification stay. -/
theorem run_independent (h : r.IsSteady start) (hc : s.settings.continueOnFailure = true) :
    ∃ alone : String → SuiteOutcome,
      (∀ suite state, r.Reaches start state →
        (s.runSuite r suite state).answer = .ok (alone suite)) ∧
      (∀ (suites : List String) startedAt completedAt, ∃ run,
        (s.run r suites startedAt completedAt start).answer = .ok run ∧
          run.outcomes = suites.map alone ∧
          (∀ i j : Nat, suites[i]? = suites[j]? → run.outcomes[i]? = run.outcomes[j]?) ∧
          (s.run r suites startedAt completedAt start).events =
            suites.flatMap fun suite ↦ (s.runSuite r suite start).events) ∧
      ∀ (suites suites' : List String) startedAt completedAt startedAt' completedAt' run run',
        suites.Perm suites' →
        (s.run r suites startedAt completedAt start).answer = .ok run →
        (s.run r suites' startedAt' completedAt' start).answer = .ok run' →
        run.outcomes.Perm run'.outcomes ∧ run.failed = run'.failed ∧
          run.isCertified = run'.isCertified := by
  refine ⟨fun suite ↦ (s.attempt r suite start).outcome, ?_, ?_, ?_⟩
  · intro suite state hs
    exact congrArg Except.ok (s.attempt_of_reaches h suite hs).1
  · intro suites startedAt completedAt
    obtain ⟨run, hrun, houtcomes, -, hevents⟩ :=
      s.exists_run_of_isSteady h hc suites startedAt completedAt
    refine ⟨run, hrun, houtcomes, ?_, hevents.trans ?_⟩
    · intro i j hij
      rw [houtcomes, List.getElem?_map, List.getElem?_map, hij]
    · simp only [runSuite_eq_attempt]
  · intro suites suites' startedAt completedAt startedAt' completedAt' run run' hperm hrun hrun'
    obtain ⟨_, hfirst, houtcomes, hfailed, -⟩ :=
      s.exists_run_of_isSteady h hc suites startedAt completedAt
    obtain ⟨_, hsecond, houtcomes', hfailed', -⟩ :=
      s.exists_run_of_isSteady h hc suites' startedAt' completedAt'
    obtain rfl := Except.ok.inj (hfirst.symm.trans hrun)
    obtain rfl := Except.ok.inj (hsecond.symm.trans hrun')
    have hsame := (hfailed.trans (hperm.countP_eq _)).trans hfailed'.symm
    refine ⟨?_, hsame, ?_⟩
    · rw [houtcomes, houtcomes']
      exact hperm.map _
    · rw [CertificationRun.isCertified, CertificationRun.isCertified, hsame]

/-- A script that hands out a fingerprint and panics when it is invoked. -/
def fragile : Script where
  name := "fragile"
  replies := [.panics (.text "worn out")]
  declaration := none
  description := none
  fingerprints := some [some .null]
  parser := none

/-- A directory with one suite, which is observed. -/
def oneObserved : Suites where
  disk := ⟨"/work", [(["observed"], .directory), (["observed", "test.json"],
    .file (Text.Utf8.encode "\x7b\"category\":\"resolver-runtime\",\"assertions\":[]\x7d"))]⟩
  root := "."
  settings := .default

/-- A suite that is missing has the same outcome before and after one in which the script panics. -/
theorem run_independent_fragile :
    fragile.resolver.IsSteady Script.start ∧
    oneObserved.settings.continueOnFailure = true ∧
    ∀ startedAt completedAt, ∃ run,
      (oneObserved.run fragile.resolver ["absent", "observed", "absent"] startedAt completedAt
        Script.start).answer = .ok run ∧
      run.outcomes =
        [⟨"absent", none, none, .loadFailed "Test spec not found: ./absent/test.json", .zero⟩,
         ⟨"observed", none, none, .crashed "suite panicked: worn out", .zero⟩,
         ⟨"absent", none, none, .loadFailed "Test spec not found: ./absent/test.json", .zero⟩] := by
  have hsteady : fragile.resolver.IsSteady Script.start :=
    Script.isSteady_resolver (by decide) (by decide) _
  refine ⟨hsteady, rfl, fun startedAt completedAt ↦ ?_⟩
  obtain ⟨alone, halone, hruns, -⟩ := run_independent oneObserved hsteady rfl
  have hone {suite : String} {o : SuiteOutcome}
      (h : (oneObserved.runSuite fragile.resolver suite Script.start).answer.toOption = some o) :
      alone suite = o :=
    Except.ok.inj ((halone suite _ .start).symm.trans (eq_ok_of_toOption h))
  have habsent : alone "absent" =
      ⟨"absent", none, none, .loadFailed "Test spec not found: ./absent/test.json", .zero⟩ :=
    hone (by decide +kernel)
  have hobserved : alone "observed" =
      ⟨"observed", none, none, .crashed "suite panicked: worn out", .zero⟩ :=
    hone (by decide +kernel)
  obtain ⟨run, hrun, houtcomes, -⟩ := hruns ["absent", "observed", "absent"] startedAt completedAt
  refine ⟨run, hrun, houtcomes.trans ?_⟩
  rw [List.map_cons, List.map_cons, List.map_cons, List.map_nil, habsent, hobserved]

end Suites

end Certification
