import Certification.Proofs.Suite.Bookkeeping
import Certification.Proofs.Suite.Containment
import Certification.Proofs.Suite.Projection

/-!
# One declaration for a run

What a run of suites does with the declaration of a program on record. A suite that is observed asks
for it, and is judged on an observation that is held against it; no other suite does. So after any
number of suites the program was asked if one of them is observed, and once it was asked, what it
has declared stays for all suites that follow.
-/

namespace Certification

namespace Suites

variable {σ : Type}

/-- The state in which a run comes to its suite at a position. -/
def stateBefore (s : Suites) (r : Resolver σ) (suites : List String) (state : σ) (i : Nat) : σ :=
  Attempt.stateAfter state ((s.attempts r suites state).take i)

private theorem stateBefore_take (s : Suites) (r : Resolver σ) (suites : List String) (state : σ)
    {i n : Nat} (h : i ≤ n) :
    s.stateBefore r (suites.take n) state i = s.stateBefore r suites state i := by
  rw [stateBefore, stateBefore, attempts_take, List.take_take, Nat.min_eq_left h]

/-- The outcome of a suite is the verdict on the observation that is made in a state, and the
observation is held against the metadata. -/
def IsJudgedAgainst (s : Suites) (r : Resolver σ) (state : σ) (o : SuiteOutcome)
    (metadata : ResolverContract) : Prop :=
  ∃ spec observation, s.loadSpec o.suite = .ok spec ∧
    (r.observe (.forSuite spec.testId s.settings) state).answer = .ok observation ∧
    observation.metadata = metadata ∧
    o = ⟨o.suite, spec.testId, some .runtime,
      statusOf (judge spec.assertions (.runtime observation)), .zero⟩

/-- An attempt at an observed suite leaves what its observation leaves. -/
theorem attempt_of_observe (s : Suites) (r : Resolver σ) {suite : String} {spec : TestSpec}
    (hspec : s.loadSpec suite = .ok spec)
    (hobserved : spec.isRuntime s.settings.runtimeCategory = true) {state : σ}
    {observation : Observation}
    (ho : (r.observe (.forSuite spec.testId s.settings) state).answer = .ok observation) :
    (s.attempt r suite state).state =
        (r.observe (.forSuite spec.testId s.settings) state).state ∧
      (s.attempt r suite state).outcome =
        ⟨suite, spec.testId, some .runtime,
          statusOf (judge spec.assertions (.runtime observation)), .zero⟩ := by
  rcases hrun : r.observe (.forSuite spec.testId s.settings) state with ⟨answer, after, events⟩
  rw [hrun] at ho
  obtain rfl : answer = .ok observation := ho
  have htarget := s.acquireTarget_of_isRuntime r suite hobserved
  rw [attempt, s.evaluate_of_loadSpec_ok r suite state hspec, htarget,
    Trial.bind_apply_of_eq _ hrun]
  exact ⟨rfl, rfl⟩

end Suites

namespace Resolver.Projects

variable {σ τ : Type} {f : σ → τ} {r : Resolver σ} {q : Resolver τ} (h : r.Projects f q)
  (s : Suites)

include h

/-- A run comes to its suites in the states that are kept. -/
theorem stateBefore (suites : List String) (state : σ) (i : Nat) :
    s.stateBefore q suites (f state) i = f (s.stateBefore r suites state i) := by
  induction suites generalizing state i with
  | nil => simp [Suites.stateBefore, Suites.attempts, Attempt.stateAfter]
  | cons suite rest ih =>
    cases i with
    | zero => rfl
    | succ i =>
      have hnext : (s.attempt q suite (f state)).state = f (s.attempt r suite state).state :=
        congrArg Trace.state (h.evaluate s suite state)
      have hstep := ih (s.attempt r suite state).state i
      rw [← hnext] at hstep
      exact hstep

/-- What a suite is judged against does not depend on what is forgotten. -/
theorem isJudgedAgainst {state : σ} {o : SuiteOutcome} {metadata : ResolverContract}
    (hj : s.IsJudgedAgainst r state o metadata) : s.IsJudgedAgainst q (f state) o metadata := by
  obtain ⟨spec, observation, hspec, ho, hrest⟩ := hj
  exact ⟨spec, observation, hspec, by rw [h.observe _ state, ho], hrest⟩

end Resolver.Projects

namespace Program

open Trial

variable {π : Type} (p : Program π) (s : Suites)

/-- A suite that is not observed does not ask for the declaration. -/
theorem ensures_evaluate_of_not_isObserved (declared : Option (Option Json)) {suite : String}
    (h : ¬s.IsObserved suite) :
    Ensures (p.OnRecord declared) (s.evaluate p.recording.resolver suite) fun _ ↦
      p.OnRecord declared := by
  have hclosed := Ensures.closed (p.OnRecord declared)
  unfold Suites.evaluate
  split
  · exact hclosed.pure _
  · next spec hspec =>
    have hobserved : ¬spec.isRuntime s.settings.runtimeCategory = true := fun hr ↦
      h ⟨spec, hspec, hr⟩
    have hacquired : Ensures (p.OnRecord declared)
        (s.acquireTarget p.recording.resolver suite spec) fun _ ↦ p.OnRecord declared := by
      unfold Suites.acquireTarget
      rw [if_neg hobserved]
      split
      · exact hclosed.pure _
      · refine hclosed.parseWorkflow (fun parser hparser source ↦ ?_) s suite _
        obtain rfl := Option.some.inj hparser
        exact p.ensures_tryParse declared source
      · exact hclosed.pure _
    refine hclosed.bind hacquired fun acquired ↦ ?_
    cases acquired with
    | error fault => exact hclosed.pure _
    | ok target => exact hclosed.pure _

section Attempts

variable {declared : Option (Option Json)} {state : ProgramState (π × List ProgramStart)}

/-- One suite asks for the declaration if it is observed, keeps what was declared before, and is
judged against what is declared then. -/
theorem attempt_onRecord (suite : String) (h : p.OnRecord declared state) :
    ∃ later, p.OnRecord later (s.attempt p.recording.resolver suite state).state ∧
      (∀ told ∈ declared, later = some told) ∧
      (later.isSome ↔ declared.isSome ∨ s.IsObserved suite) ∧
      (s.IsObserved suite → ∃ told ∈ later,
        s.IsJudgedAgainst p.recording.resolver state
          (s.attempt p.recording.resolver suite state).outcome
          ⟨told.getD (Resolver.nameOnly p.name)⟩) := by
  by_cases hobserved : s.IsObserved suite
  · obtain ⟨spec, hspec, hruntime⟩ := hobserved
    obtain ⟨observation, ho, told, ⟨hsame, hrecord⟩, hheld⟩ :=
      p.ensures_observe declared (.forSuite spec.testId s.settings) state h
    obtain ⟨hstate, houtcome⟩ := s.attempt_of_observe p.recording.resolver hspec hruntime ho
    refine ⟨some told, hstate ▸ hrecord, fun before hb ↦ by rw [hsame before hb],
      iff_of_true rfl (.inr ⟨spec, hspec, hruntime⟩), fun _ ↦ ⟨told, rfl, ?_⟩⟩
    rw [houtcome]
    exact ⟨spec, observation, hspec, ho, hheld, rfl⟩
  · obtain ⟨_, -, hrecord⟩ := p.ensures_evaluate_of_not_isObserved s declared hobserved state h
    exact ⟨declared, hrecord, fun told ht ↦ ht, by simp [hobserved], fun ho ↦ absurd ho hobserved⟩

/-- Suites in order ask for the declaration if one of them is observed, keep what was declared
before, and are all judged against what is declared in the end. -/
theorem attempts_onRecord (suites : List String) (h : p.OnRecord declared state) :
    ∃ later,
      p.OnRecord later (Attempt.stateAfter state (s.attempts p.recording.resolver suites state)) ∧
      (∀ told ∈ declared, later = some told) ∧
      (later.isSome ↔ declared.isSome ∨ ∃ suite ∈ suites, s.IsObserved suite) ∧
      ∀ i a, (s.attempts p.recording.resolver suites state)[i]? = some a →
        s.IsObserved a.outcome.suite → ∃ told ∈ later,
          s.IsJudgedAgainst p.recording.resolver
            (s.stateBefore p.recording.resolver suites state i) a.outcome
            ⟨told.getD (Resolver.nameOnly p.name)⟩ := by
  induction suites generalizing declared state with
  | nil => exact ⟨declared, h, fun told ht ↦ ht, by simp, by simp [Suites.attempts]⟩
  | cons suite rest ih =>
    obtain ⟨middle, hmiddle, hkept, hasked, hjudged⟩ := p.attempt_onRecord s suite h
    obtain ⟨later, hlater, hkept', hasked', hjudged'⟩ := ih hmiddle
    refine ⟨later, hlater, fun told ht ↦ hkept' told (hkept told ht), ?_, fun i a ha ho ↦ ?_⟩
    · rw [hasked', hasked, or_assoc, List.exists_mem_cons_iff]
    · cases i with
      | zero =>
        obtain rfl : s.attempt p.recording.resolver suite state = a := by
          simpa [Suites.attempts] using ha
        rw [s.suite_attempt] at ho
        obtain ⟨told, ht, hagainst⟩ := hjudged ho
        exact ⟨told, hkept' told ht, hagainst⟩
      | succ i => exact hjudged' i a (by simpa [Suites.attempts] using ha) ho

end Attempts

/-! ### Runs -/

/-- A run asks for the declaration if it comes to a suite that is observed, and all of these are
judged against what is declared then. -/
theorem run_onRecord (suites : List String) (startedAt completedAt : Timestamp)
    {state : ProgramState (π × List ProgramStart)} (h : p.OnRecord none state) :
    ∃ run later,
      (s.run p.recording.resolver suites startedAt completedAt state).answer = .ok run ∧
      p.OnRecord later (s.run p.recording.resolver suites startedAt completedAt state).state ∧
      (later.isSome ↔ ∃ o ∈ run.outcomes, o.status ≠ .skipped ∧ s.IsObserved o.suite) ∧
      ∀ i o, run.outcomes[i]? = some o → o.status ≠ .skipped → s.IsObserved o.suite →
        ∃ told ∈ later,
          s.IsJudgedAgainst p.recording.resolver
            (s.stateBefore p.recording.resolver suites state i) o
            ⟨told.getD (Resolver.nameOnly p.name)⟩ := by
  let r := p.recording.resolver
  let n := s.reach 0 (s.attempts r suites state)
  have hmade : s.made 0 (s.attempts r suites state) = s.attempts r (suites.take n) state :=
    (s.attempts_take r n suites state).symm
  obtain ⟨later, hlater, -, hasked, hjudged⟩ := p.attempts_onRecord s (suites.take n) h
  have hrun := s.run_eq r suites startedAt completedAt state
  -- What is not skipped comes from an attempt that is made.
  have hattempt (i : Nat) (o : SuiteOutcome) (ho : (s.outcomes r suites state)[i]? = some o)
      (hs : o.status ≠ .skipped) :
      ∃ a, (s.attempts r (suites.take n) state)[i]? = some a ∧ a.outcome = o := by
    rw [Suites.outcomes, hmade, List.getElem?_append] at ho
    split at ho
    · simpa using ho
    · obtain ⟨suite, -, rfl⟩ := List.mem_map.mp (List.mem_of_getElem? ho)
      exact absurd rfl hs
  refine ⟨_, later, by rw [hrun], ?_, ?_, fun i o ho hs hobserved ↦ ?_⟩
  · rw [hrun, hmade]
    exact hlater
  · rw [hasked]
    constructor
    · rintro (hsome | ⟨suite, hsuite, hobserved⟩)
      · cases hsome
      · rw [← s.map_suite_attempts r (suites.take n) state, List.mem_map] at hsuite
        obtain ⟨a, ha, rfl⟩ := hsuite
        refine ⟨a.outcome, ?_, s.status_ne_skipped_of_mem_attempts r _ state ha, hobserved⟩
        change a.outcome ∈ s.outcomes r suites state
        rw [Suites.outcomes, hmade]
        exact List.mem_append_left _ (List.mem_map_of_mem ha)
    · rintro ⟨o, ho, hs, hobserved⟩
      obtain ⟨i, hi⟩ := List.mem_iff_getElem?.mp ho
      obtain ⟨a, ha, rfl⟩ := hattempt i o hi hs
      refine .inr ⟨a.outcome.suite, ?_, hobserved⟩
      rw [← s.map_suite_attempts r (suites.take n) state]
      exact List.mem_map_of_mem (List.mem_of_getElem? ha)
  · obtain ⟨a, ha, rfl⟩ := hattempt i o ho hs
    obtain ⟨told, ht, hagainst⟩ := hjudged i a ha hobserved
    have hi : i < n := by
      have hlength := (List.getElem?_eq_some_iff.mp ha).1
      rw [s.attempts_take] at hlength
      exact Nat.lt_of_lt_of_le hlength (List.length_take_le _ _)
    rw [s.stateBefore_take r suites state (Nat.le_of_lt hi)] at hagainst
    exact ⟨told, ht, hagainst⟩

end Program

end Certification
