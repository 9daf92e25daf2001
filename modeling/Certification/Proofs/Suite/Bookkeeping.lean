import Certification.Proofs.Suite.Attempts
import Certification.Report

/-!
# Bookkeeping of a run

What the counter, the outcomes and the verdict of a run have to do with each other, however the
suites end and whether or not the run goes on after a failure. Every outcome is of exactly one sort,
so the three counts add up to the number of suites; a suite is skipped only behind a failure, so a
run without failures has nothing but passed suites.
-/

namespace Certification

private theorem SuiteOutcome.countP_status (outcomes : List SuiteOutcome) :
    outcomes.countP (·.status.isPassed) + outcomes.countP (·.status.isFailed) +
      outcomes.countP (·.status.isSkipped) = outcomes.length := by
  induction outcomes with
  | nil => rfl
  | cons o rest ih =>
    have hone : (if o.status.isPassed then 1 else 0) + (if o.status.isFailed then 1 else 0) +
        (if o.status.isSkipped then 1 else 0) = 1 := by
      cases o.status <;> rfl
    simp only [List.countP_cons, List.length_cons]
    omega

private theorem SuiteStatus.eq_passed_of_not_isFailed {status : SuiteStatus}
    (hf : status.isFailed = false) (hs : status ≠ .skipped) : status = .passed := by
  cases status with
  | passed => rfl
  | skipped => exact absurd rfl hs
  | failed _ => cases hf
  | loadFailed _ => cases hf
  | crashed _ => cases hf

namespace Suites

variable {σ : Type}

private theorem countP_failed_made_pos (s : Suites) (attempts : List (Attempt σ))
    (h : s.reach 0 attempts < attempts.length) :
    0 < (s.made 0 attempts).countP Attempt.failed := by
  rw [reach_zero] at h
  split at h
  · omega
  · next hc =>
    have hi : attempts.findIdx Attempt.failed < attempts.length := by omega
    have hm : attempts[attempts.findIdx Attempt.failed] ∈ s.made 0 attempts := by
      rw [made, reach_zero, if_neg hc]
      exact List.mem_take_iff_getElem.mpr ⟨attempts.findIdx Attempt.failed, by omega, rfl⟩
    exact List.countP_pos_iff.mpr ⟨_, hm, List.findIdx_getElem⟩

section Outcomes

variable (s : Suites) (r : Resolver σ) (suites : List String) (state : σ)

/-- There is exactly one outcome for each suite, in the order of the suites. -/
theorem map_suite_outcomes : (s.outcomes r suites state).map (·.suite) = suites := by
  have hmade : ((s.made 0 (s.attempts r suites state)).map Attempt.outcome).map (·.suite) =
      suites.take (s.reach 0 (s.attempts r suites state)) := by
    rw [made, List.map_map, List.map_take]
    exact congrArg (List.take _) (s.map_suite_attempts r suites state)
  have hskipped (names : List String) :
      (names.map SuiteOutcome.skipped).map (·.suite) = names := by
    rw [List.map_map]
    exact List.map_id names
  rw [outcomes, List.map_append, hmade, hskipped, List.take_append_drop]

private theorem length_outcomes : (s.outcomes r suites state).length = suites.length := by
  rw [← List.length_map (·.suite), map_suite_outcomes]

/-- The outcomes that count against certification are those of the attempts that failed. -/
theorem countP_isFailed_outcomes :
    (s.outcomes r suites state).countP (·.status.isFailed) =
      (s.made 0 (s.attempts r suites state)).countP Attempt.failed := by
  have hskipped (names : List String) :
      (names.map SuiteOutcome.skipped).countP (·.status.isFailed) = 0 := by
    simp [List.countP_map, SuiteOutcome.skipped, SuiteStatus.isFailed, Function.comp_def]
  rw [outcomes, List.countP_append, hskipped, List.countP_map]
  rfl

private theorem status_ne_skipped_of_mem_made {o : SuiteOutcome}
    (ho : o ∈ (s.made 0 (s.attempts r suites state)).map Attempt.outcome) :
    o.status ≠ .skipped := by
  obtain ⟨a, ha, rfl⟩ := List.mem_map.mp ho
  exact s.status_ne_skipped_of_mem_attempts r suites state (List.mem_of_mem_take ha)

/-- A run that goes on after a failure skips nothing. -/
theorem outcomes_of_continueOnFailure (hc : s.settings.continueOnFailure = true) :
    s.outcomes r suites state = (s.attempts r suites state).map Attempt.outcome := by
  have hreach : s.reach 0 (s.attempts r suites state) = (s.attempts r suites state).length := by
    simp [reach_zero, hc]
  rw [outcomes, made, hreach, List.take_length, length_attempts, List.drop_length, List.map_nil,
    List.append_nil]

private theorem outcomes_of_countP_isFailed_eq_zero
    (h : (s.outcomes r suites state).countP (·.status.isFailed) = 0) :
    s.outcomes r suites state =
      (s.made 0 (s.attempts r suites state)).map Attempt.outcome := by
  have hreach : (s.attempts r suites state).length ≤ s.reach 0 (s.attempts r suites state) := by
    rw [← Nat.not_lt]
    intro hlt
    have hpos := s.countP_failed_made_pos _ hlt
    rw [countP_isFailed_outcomes] at h
    omega
  rw [length_attempts] at hreach
  rw [outcomes, List.drop_of_length_le hreach, List.map_nil, List.append_nil]

/-- The outcomes of a run that stops at a failure: passed ones, then at most one that failed, then
skipped ones, and these only behind one that failed. -/
theorem outcomes_of_failFast (hc : s.settings.continueOnFailure = false) :
    ∃ before stop after, s.outcomes r suites state = before ++ stop ++ after ∧
      (∀ o ∈ before, o.status = .passed) ∧
      stop.length ≤ 1 ∧ (∀ o ∈ stop, o.status.isFailed = true) ∧
      (∀ o ∈ after, o.status = .skipped) ∧ (stop = [] → after = []) := by
  let attempts := s.attempts r suites state
  let cut := attempts.findIdx Attempt.failed
  have hreach : s.reach 0 attempts = cut + 1 := by simp [reach_zero, hc, cut]
  refine ⟨(attempts.take cut).map Attempt.outcome,
    ((attempts.drop cut).take 1).map Attempt.outcome,
    (suites.drop (cut + 1)).map SuiteOutcome.skipped, ?_, ?_, ?_, ?_, ?_, ?_⟩
  · change (s.made 0 attempts).map Attempt.outcome ++
      (suites.drop (s.reach 0 attempts)).map SuiteOutcome.skipped = _
    rw [made, hreach, List.take_add, List.map_append]
  · intro o ho
    obtain ⟨a, ha, rfl⟩ := List.mem_map.mp ho
    obtain ⟨i, hi, rfl⟩ := List.mem_take_iff_getElem.mp ha
    apply SuiteStatus.eq_passed_of_not_isFailed
    · exact List.not_of_lt_findIdx (show i < cut by omega)
    · exact s.status_ne_skipped_of_mem_attempts r suites state (List.getElem_mem _)
  · rw [List.length_map, List.length_take]
    omega
  · intro o ho
    obtain ⟨a, ha, rfl⟩ := List.mem_map.mp ho
    obtain ⟨i, hi, rfl⟩ := List.mem_take_iff_getElem.mp ha
    have hz : i = 0 := by omega
    subst hz
    have hcut : cut < attempts.length := by
      simp only [List.length_drop] at hi
      omega
    rw [List.getElem_drop]
    exact List.findIdx_getElem (w := hcut)
  · intro o ho
    obtain ⟨suite, _, rfl⟩ := List.mem_map.mp ho
    rfl
  · intro hstop
    have hlen : attempts.length ≤ cut := by
      simpa using hstop
    rw [length_attempts] at hlen
    rw [List.drop_of_length_le (by omega), List.map_nil]

/-- A run counts nothing against certification exactly when every suite passed. -/
theorem countP_isFailed_outcomes_eq_zero_iff :
    (s.outcomes r suites state).countP (·.status.isFailed) = 0 ↔
      ∀ o ∈ s.outcomes r suites state, o.status = .passed := by
  constructor
  · intro h o ho
    have hf := List.countP_eq_zero.mp h o ho
    rw [s.outcomes_of_countP_isFailed_eq_zero r suites state h] at ho
    exact SuiteStatus.eq_passed_of_not_isFailed (by simpa using hf)
      (s.status_ne_skipped_of_mem_made r suites state ho)
  · intro h
    apply List.countP_eq_zero.mpr
    intro o ho
    simp [h o ho, SuiteStatus.isFailed]

end Outcomes

/-- Whatever a resolver does and however suites end, a run has exactly one outcome for each suite in
order. Its counter is the number of outcomes that count against certification, and the counts of
passed, failed and skipped suites add up. A run that goes on after a failure skips nothing; one that
stops has passed suites, then at most one failure, then skipped suites. It certifies exactly when
every suite passed, and its report carries the same numbers and the names of the suites. -/
theorem run_bookkeeping (s : Suites) (r : Resolver σ) (suites : List String)
    (startedAt completedAt : Timestamp) (state : σ) :
    ∃ run, (s.run r suites startedAt completedAt state).answer = .ok run ∧
      run.outcomes.map (·.suite) = suites ∧
      run.failed = run.outcomes.countP (·.status.isFailed) ∧
      run.passed + run.failed + run.skipped = suites.length ∧
      (s.settings.continueOnFailure = true → ∀ o ∈ run.outcomes, o.status ≠ .skipped) ∧
      (s.settings.continueOnFailure = false →
        ∃ before stop after, run.outcomes = before ++ stop ++ after ∧
          (∀ o ∈ before, o.status = .passed) ∧
          stop.length ≤ 1 ∧ (∀ o ∈ stop, o.status.isFailed = true) ∧
          (∀ o ∈ after, o.status = .skipped) ∧ (stop = [] → after = [])) ∧
      (run.isCertified = true ↔ ∀ o ∈ run.outcomes, o.status = .passed) ∧
      (Report.ofRun run).summary =
        ⟨suites.length, run.passed, run.failed, run.skipped, run.isCertified⟩ ∧
      (Report.ofRun run).passed = run.isCertified ∧
      (Report.ofRun run).failedTests = run.failed ∧
      (Report.ofRun run).suites = suites := by
  have hrun := congrArg Trace.answer (s.run_eq r suites startedAt completedAt state)
  have hfailed := s.countP_isFailed_outcomes r suites state
  have hnames := s.map_suite_outcomes r suites state
  have hlength := s.length_outcomes r suites state
  refine ⟨_, hrun, hnames, hfailed.symm, ?_, ?_, ?_, ?_, ?_, rfl, rfl, hnames⟩
  · change (s.outcomes r suites state).countP _ + _ + (s.outcomes r suites state).countP _ = _
    rw [← hfailed, SuiteOutcome.countP_status, hlength]
  · intro hc o ho
    change o ∈ s.outcomes r suites state at ho
    rw [s.outcomes_of_continueOnFailure r suites state hc] at ho
    obtain ⟨a, ha, rfl⟩ := List.mem_map.mp ho
    exact s.status_ne_skipped_of_mem_attempts r suites state ha
  · exact s.outcomes_of_failFast r suites state
  · change (_ == 0) = true ↔ _
    rw [← hfailed, beq_iff_eq]
    exact s.countP_isFailed_outcomes_eq_zero_iff r suites state
  · change ReportSummary.mk (s.outcomes r suites state).length _ _ _ _ = _
    rw [hlength]

end Suites

end Certification
