import Certification.Proofs.Suite.Bookkeeping

/-!
# Stopping at the first failure

A run that stops at the first failure beside one that goes on, both with the same suites, the same
resolver and the same state to start from. Up to the end of the first suite that fails the two do
the same: they make the same calls, leave the resolver in the same state and have the same outcomes.
-/

namespace Certification

namespace Suites

variable {σ : Type}

/-- The same suites with the same settings, but for what happens after a failure. -/
def continuing (s : Suites) (goesOn : Bool) : Suites :=
  { s with settings := { s.settings with continueOnFailure := goesOn } }

/-! ### Single suites -/

section Single

variable (s : Suites) (goesOn : Bool) (r : Resolver σ) (suite : String)

private theorem readFile_continuing (missing : String → SuiteFault) (path : String) :
    (s.continuing goesOn).readFile missing path = s.readFile missing path := by
  unfold readFile
  rfl

private theorem loadSpec_continuing :
    (s.continuing goesOn).loadSpec suite = s.loadSpec suite := by
  unfold loadSpec directory
  simp only [readFile_continuing]
  rfl

private theorem acquireTarget_continuing (spec : TestSpec) :
    (s.continuing goesOn).acquireTarget r suite spec = s.acquireTarget r suite spec := by
  unfold acquireTarget parseWorkflow loadContract directory
  simp only [readFile_continuing]
  rfl

private theorem evaluate_continuing :
    (s.continuing goesOn).evaluate r suite = s.evaluate r suite := by
  unfold evaluate
  simp only [loadSpec_continuing, acquireTarget_continuing]

private theorem attempts_continuing (suites : List String) (state : σ) :
    (s.continuing goesOn).attempts r suites state = s.attempts r suites state := by
  induction suites generalizing state with
  | nil => rfl
  | cons suite rest ih => simp only [attempts, attempt, evaluate_continuing, ih]

end Single

/-! ### Runs -/

section Runs

variable (s : Suites) (r : Resolver σ) (suites : List String) (startedAt completedAt : Timestamp)
  (state : σ)

private theorem run_continuing_true :
    (s.continuing true).run r suites startedAt completedAt state =
      ⟨.ok ⟨r.name, (s.attempts r suites state).countP Attempt.failed,
          (s.attempts r suites state).map Attempt.outcome, startedAt, completedAt⟩,
        Attempt.stateAfter state (s.attempts r suites state),
        (s.attempts r suites state).flatMap Attempt.events⟩ := by
  have hmade : (s.continuing true).made 0 (s.attempts r suites state) =
      s.attempts r suites state := by
    rw [made, reach_zero]
    exact List.take_length
  rw [run_eq, outcomes_of_continueOnFailure _ _ _ _ rfl, attempts_continuing, hmade]

/-- How many of some attempts are made until one fails. -/
def untilFailure (attempts : List (Attempt σ)) : Nat := attempts.findIdx Attempt.failed + 1

private theorem reach_continuing_false (attempts : List (Attempt σ)) :
    (s.continuing false).reach 0 attempts = untilFailure attempts := by
  rw [reach_zero]
  rfl

private theorem outcomes_continuing_false :
    (s.continuing false).outcomes r suites state =
      ((s.attempts r suites state).take
          (untilFailure (s.attempts r suites state))).map Attempt.outcome ++
        (suites.drop (untilFailure (s.attempts r suites state))).map SuiteOutcome.skipped := by
  rw [outcomes, attempts_continuing, made, reach_continuing_false]

private theorem run_continuing_false :
    (s.continuing false).run r suites startedAt completedAt state =
      ⟨.ok ⟨r.name,
          ((s.attempts r suites state).take
            (untilFailure (s.attempts r suites state))).countP Attempt.failed,
          (s.continuing false).outcomes r suites state, startedAt, completedAt⟩,
        Attempt.stateAfter state
          ((s.attempts r suites state).take (untilFailure (s.attempts r suites state))),
        ((s.attempts r suites state).take
          (untilFailure (s.attempts r suites state))).flatMap Attempt.events⟩ := by
  rw [run_eq, attempts_continuing, made, reach_continuing_false]

private theorem events_run_continuing_true (n : Nat) :
    ((s.continuing true).run r suites startedAt completedAt state).events =
      ((s.continuing true).run r (suites.take n) startedAt completedAt state).events ++
        ((s.continuing true).run r (suites.drop n) startedAt completedAt
          ((s.continuing true).run r (suites.take n) startedAt completedAt
            state).state).events := by
  simp only [run_continuing_true]
  rw [← List.flatMap_append, ← attempts_append, List.take_append_drop]

end Runs

private theorem take_append_of_length_le {α : Type} (n : Nat) (items rest : List α)
    (h : items.length < n → rest = []) :
    (items.take n ++ rest).take n = items.take n ∧ (items.take n ++ rest).drop n = rest := by
  by_cases hn : items.length < n
  · rw [h hn, List.append_nil, List.take_of_length_le (by omega : items.length ≤ n)]
    exact ⟨List.take_of_length_le (by omega), List.drop_of_length_le (by omega)⟩
  · have hl : (items.take n).length = n := by
      rw [List.length_take]
      omega
    exact ⟨List.take_left' hl, List.drop_left' hl⟩

/-- A run that stops at the first failure is a run that goes on, cut off behind the first suite that
fails. Up to there the outcomes are the same, and every later suite is skipped. Its calls, and the
state in which it leaves the resolver, are those of the other run on the suites up to there, whose
calls are the first ones of the other run. -/
theorem failFast_run_truncates (s : Suites) (r : Resolver σ) (suites : List String)
    (startedAt completedAt startedAt' completedAt' : Timestamp) (state : σ) :
    let whole := (s.continuing true).run r suites startedAt completedAt state
    let short := (s.continuing false).run r suites startedAt' completedAt' state
    ∃ full fast, whole.answer = .ok full ∧ short.answer = .ok fast ∧
      let cut := full.outcomes.findIdx (·.status.isFailed) + 1
      let first := (s.continuing true).run r (suites.take cut) startedAt completedAt state
      let rest := (s.continuing true).run r (suites.drop cut) startedAt completedAt first.state
      fast.outcomes.map (·.suite) = suites ∧
      fast.outcomes.take cut = full.outcomes.take cut ∧
      (∀ o ∈ fast.outcomes.drop cut, o.status = .skipped ∧ o.testId = none ∧ o.target = none) ∧
      short.events = first.events ∧
      short.state = first.state ∧
      whole.events = first.events ++ rest.events ∧
      short.events <+: whole.events := by
  intro whole short
  let attempts := s.attempts r suites state
  let cut := untilFailure attempts
  have hcut : (attempts.map Attempt.outcome).findIdx (·.status.isFailed) + 1 = cut := by
    rw [List.findIdx_map]
    rfl
  have hsplit := take_append_of_length_le cut (attempts.map Attempt.outcome)
    ((suites.drop cut).map SuiteOutcome.skipped) (by
      intro h
      rw [List.length_map, length_attempts] at h
      rw [List.drop_of_length_le (by omega), List.map_nil])
  rw [← List.map_take] at hsplit
  have hfast := s.outcomes_continuing_false r suites state
  have hshort := s.run_continuing_false r suites startedAt' completedAt' state
  have hfirst := s.run_continuing_true r (suites.take cut) startedAt completedAt state
  rw [attempts_take] at hfirst
  have hevents := (congrArg Trace.events hshort).trans (congrArg Trace.events hfirst).symm
  have hwhole := s.events_run_continuing_true r suites startedAt completedAt state cut
  refine ⟨_, _, congrArg Trace.answer (s.run_continuing_true r suites startedAt completedAt state),
    congrArg Trace.answer hshort, ?_⟩
  dsimp only
  rw [hcut]
  refine ⟨(s.continuing false).map_suite_outcomes r suites state, ?_, ?_, hevents,
    (congrArg Trace.state hshort).trans (congrArg Trace.state hfirst).symm, hwhole, ?_⟩
  · rw [hfast, ← List.map_take]
    exact hsplit.1
  · intro o ho
    rw [hfast] at ho
    obtain ⟨suite, _, rfl⟩ := List.mem_map.mp (hsplit.2 ▸ ho)
    exact ⟨rfl, rfl, rfl⟩
  · exact ⟨_, (hwhole.trans (congrArg (· ++ _) hevents.symm)).symm⟩

end Suites

end Certification
