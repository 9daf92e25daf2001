import Certification.Suite.Run

/-!
# Attempts of a run

A run of suites told apart from the bookkeeping around it. `Suites.attempts` lists what each suite
leaves when all of them are run in order, and `Suites.reach` says how many of these a run makes
before it gives up. `Suites.runFrom_eq` puts a run together from the two: its counter, its outcomes,
the state it leaves and its calls.
-/

namespace Certification

/-- What the run of one suite leaves: its outcome, the state of the resolver, and the calls. -/
structure Attempt (σ : Type) where
  outcome : SuiteOutcome
  state : σ
  events : List Event

namespace Attempt

variable {σ : Type}

/-- Whether the suite counts against certification. -/
def failed (a : Attempt σ) : Bool := a.outcome.status.isFailed

/-- The state of the resolver after attempts that started in a state. -/
def stateAfter : σ → List (Attempt σ) → σ
  | state, [] => state
  | _, a :: rest => stateAfter a.state rest

end Attempt

namespace Suites

variable {σ : Type}

/-- What a suite leaves when it is run in a state. -/
def attempt (s : Suites) (r : Resolver σ) (suite : String) (state : σ) : Attempt σ where
  outcome := outcomeOf suite (s.evaluate r suite state).answer
  state := (s.evaluate r suite state).state
  events := (s.evaluate r suite state).events

/-- What each of some suites leaves when all of them are run, each in the state in which the one
before it has left the resolver. -/
def attempts (s : Suites) (r : Resolver σ) : List String → σ → List (Attempt σ)
  | [], _ => []
  | suite :: rest, state =>
    s.attempt r suite state :: attempts s r rest (s.attempt r suite state).state

/-- The run of a suite is its attempt. -/
theorem runSuite_eq_attempt (s : Suites) (r : Resolver σ) (suite : String) (state : σ) :
    s.runSuite r suite state =
      ⟨.ok (s.attempt r suite state).outcome, (s.attempt r suite state).state,
        (s.attempt r suite state).events⟩ := by
  change (⟨_, _, (s.evaluate r suite state).events ++ []⟩ : Trace σ SuiteOutcome) = _
  rw [List.append_nil]
  rfl

/-- An outcome names the suite that was run. -/
theorem suite_attempt (s : Suites) (r : Resolver σ) (suite : String) (state : σ) :
    (s.attempt r suite state).outcome.suite = suite := by
  change (outcomeOf suite _).suite = suite
  unfold outcomeOf
  split <;> rfl

/-- A suite that is run is never marked as skipped. -/
theorem status_attempt_ne_skipped (s : Suites) (r : Resolver σ) (suite : String) (state : σ) :
    (s.attempt r suite state).outcome.status ≠ .skipped := by
  change (outcomeOf suite _).status ≠ .skipped
  unfold outcomeOf
  split
  · unfold statusOf
    split <;> simp
  · unfold statusOfFault
    split <;> simp
  · simp

/-- There is one attempt for each suite. -/
theorem length_attempts (s : Suites) (r : Resolver σ) (suites : List String) (state : σ) :
    (s.attempts r suites state).length = suites.length := by
  induction suites generalizing state with
  | nil => rfl
  | cons suite rest ih => rw [attempts, List.length_cons, List.length_cons, ih]

/-- The attempts are named after the suites, in order. -/
theorem map_suite_attempts (s : Suites) (r : Resolver σ) (suites : List String) (state : σ) :
    (s.attempts r suites state).map (·.outcome.suite) = suites := by
  induction suites generalizing state with
  | nil => rfl
  | cons suite rest ih => rw [attempts, List.map_cons, suite_attempt, ih]

/-- No attempt is marked as skipped. -/
theorem status_ne_skipped_of_mem_attempts (s : Suites) (r : Resolver σ) (suites : List String)
    (state : σ) {a : Attempt σ} (ha : a ∈ s.attempts r suites state) :
    a.outcome.status ≠ .skipped := by
  induction suites generalizing state with
  | nil => cases ha
  | cons suite rest ih =>
    rcases List.mem_cons.mp ha with rfl | h
    · exact s.status_attempt_ne_skipped r suite state
    · exact ih _ h

/-- The attempts of two lists of suites in a row: the second list starts where the first one has
left the resolver. -/
theorem attempts_append (s : Suites) (r : Resolver σ) (earlier later : List String) (state : σ) :
    s.attempts r (earlier ++ later) state =
      s.attempts r earlier state ++
        s.attempts r later (Attempt.stateAfter state (s.attempts r earlier state)) := by
  induction earlier generalizing state with
  | nil => rfl
  | cons suite rest ih =>
    simp only [List.cons_append, attempts, Attempt.stateAfter]
    rw [ih]

/-- The attempts of the first suites are the first attempts. -/
theorem attempts_take (s : Suites) (r : Resolver σ) (n : Nat) (suites : List String) (state : σ) :
    s.attempts r (suites.take n) state = (s.attempts r suites state).take n := by
  induction suites generalizing n state with
  | nil => simp [attempts]
  | cons suite rest ih =>
    cases n with
    | zero => rfl
    | succ n => simp only [List.take_succ_cons, attempts, ih]

/-! ### How far a run gets -/

/-- How many of some attempts a run makes when a number of suites has failed before: all of them
if it goes on after a failure, else none after a failure and those up to the first failure
otherwise. -/
def reach (s : Suites) (failed : Nat) (attempts : List (Attempt σ)) : Nat :=
  if s.settings.continueOnFailure then attempts.length
  else if 0 < failed then 0
  else attempts.findIdx Attempt.failed + 1

private theorem reach_of_stopped (s : Suites) (failed : Nat) (attempts : List (Attempt σ))
    (h : 0 < failed ∧ s.settings.continueOnFailure = false) : s.reach failed attempts = 0 := by
  simp [reach, h]

private theorem reach_cons (s : Suites) (failed : Nat) (a : Attempt σ) (rest : List (Attempt σ))
    (h : ¬(0 < failed ∧ s.settings.continueOnFailure = false)) :
    s.reach failed (a :: rest) =
      s.reach (if a.outcome.status.isFailed then failed + 1 else failed) rest + 1 := by
  cases hc : s.settings.continueOnFailure with
  | true => simp [reach, hc]
  | false =>
    have hz : failed = 0 := by simpa [hc] using h
    subst hz
    cases ha : a.outcome.status.isFailed <;>
      simp [reach, hc, Attempt.failed, ha, List.findIdx_cons]

/-- A run from the start gets to the end if it goes on after a failure, else behind the first
attempt that fails. -/
theorem reach_zero (s : Suites) (attempts : List (Attempt σ)) :
    s.reach 0 attempts =
      if s.settings.continueOnFailure then attempts.length
      else attempts.findIdx Attempt.failed + 1 := by
  simp [reach]

/-- The attempts that a run makes. -/
def made (s : Suites) (failed : Nat) (attempts : List (Attempt σ)) : List (Attempt σ) :=
  attempts.take (s.reach failed attempts)

private theorem add_counted (counts : Bool) (failed later : Nat) :
    (if counts then failed + 1 else failed) + later =
      failed + (later + if counts then 1 else 0) := by
  split <;> omega

/-- A run of suites: it makes the attempts within its reach and skips the other suites, counts the
failures among its attempts, leaves the state that they leave, and makes their calls. -/
theorem runFrom_eq (s : Suites) (r : Resolver σ) (failed : Nat) (suites : List String)
    (state : σ) :
    s.runFrom r failed suites state =
      ⟨.ok
        (failed + (s.made failed (s.attempts r suites state)).countP Attempt.failed,
          (s.made failed (s.attempts r suites state)).map Attempt.outcome ++
            (suites.drop (s.reach failed (s.attempts r suites state))).map SuiteOutcome.skipped),
        Attempt.stateAfter state (s.made failed (s.attempts r suites state)),
        (s.made failed (s.attempts r suites state)).flatMap Attempt.events⟩ := by
  induction suites generalizing failed state with
  | nil => simp [runFrom, attempts, made, Attempt.stateAfter, pure, Trial.pure]
  | cons suite rest ih =>
    unfold runFrom
    split
    · next h =>
      simp [bind, Trial.bind, pure, Trial.pure, ih, made, reach_of_stopped s failed _ h,
        Attempt.stateAfter]
    · next h =>
      have hr := reach_cons s failed (s.attempt r suite state)
        (s.attempts r rest (s.attempt r suite state).state) h
      simp only [bind, Trial.bind, pure, Trial.pure, runSuite_eq_attempt, ih, attempts, made, hr,
        List.take_succ_cons, List.drop_succ_cons, List.map_cons, List.cons_append,
        List.flatMap_cons, List.append_nil, Attempt.stateAfter, List.countP_cons]
      congr 3
      exact add_counted _ failed _

/-- The outcomes of a run of suites: those of the attempts it makes, and a skipped one for every
suite it does not get to. -/
def outcomes (s : Suites) (r : Resolver σ) (suites : List String) (state : σ) :
    List SuiteOutcome :=
  (s.made 0 (s.attempts r suites state)).map Attempt.outcome ++
    (suites.drop (s.reach 0 (s.attempts r suites state))).map SuiteOutcome.skipped

/-- A run, put together from the attempts it makes. -/
theorem run_eq (s : Suites) (r : Resolver σ) (suites : List String)
    (startedAt completedAt : Timestamp) (state : σ) :
    s.run r suites startedAt completedAt state =
      ⟨.ok ⟨r.name, (s.made 0 (s.attempts r suites state)).countP Attempt.failed,
          s.outcomes r suites state, startedAt, completedAt⟩,
        Attempt.stateAfter state (s.made 0 (s.attempts r suites state)),
        (s.made 0 (s.attempts r suites state)).flatMap Attempt.events⟩ := by
  simp [run, bind, Trial.bind, pure, Trial.pure, runFrom_eq, outcomes]

end Suites

end Certification
