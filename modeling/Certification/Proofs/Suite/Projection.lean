import Certification.Proofs.Resolver.Recording
import Certification.Proofs.Suite.Attempts

/-!
# Projections

A resolver that keeps more in its state than another one and otherwise does the same. When what it
keeps is forgotten, its trials are those of the other one: the same answers, the same calls, and the
state that is left when the rest is forgotten. So a program may be put on record without changing a
run.
-/

namespace Certification

variable {σ τ α β : Type}

/-- The operation does in a state what another one does in the state that is kept of it. -/
def OperationProjects (f : σ → τ) (operation : σ → α × σ) (kept : τ → α × τ) : Prop :=
  ∀ state, kept (f state) = ((operation state).1, f (operation state).2)

/-- The trial does in a state what another one does in the state that is kept of it. -/
def Trial.Projects (f : σ → τ) (m : Trial σ α) (n : Trial τ α) : Prop :=
  ∀ state, n (f state) = ⟨(m state).answer, f (m state).state, (m state).events⟩

namespace Trial.Projects

variable {f : σ → τ}

private theorem pure (a : α) : Projects f (Pure.pure a) (Pure.pure a) := fun _ ↦ rfl

private theorem ask {operation : σ → Answer α × σ} {kept : τ → Answer α × τ} (call : Call)
    (h : OperationProjects f operation kept) :
    Projects f (Trial.ask call operation) (Trial.ask call kept) := by
  intro state
  unfold Trial.ask
  rw [h state]
  rcases operation state with ⟨answer, after⟩
  cases answer <;> rfl

private theorem bind {m : Trial σ α} {n : Trial τ α} {g : α → Trial σ β} {k : α → Trial τ β}
    (hm : Projects f m n) (hg : ∀ a, Projects f (g a) (k a)) :
    Projects f (m >>= g) (n >>= k) := by
  intro state
  have hfirst := hm state
  rcases hrun : m state with ⟨answer, after, events⟩
  rw [hrun] at hfirst
  cases answer with
  | ok a => rw [bind_apply_of_eq g hrun, bind_apply_of_eq k hfirst, hg a after]
  | error panic => rw [bind_apply_of_error g hrun, bind_apply_of_error k hfirst]

end Trial.Projects

/-- The resolver does in a state what another one does in the state that is kept of it. -/
structure Resolver.Projects (f : σ → τ) (r : Resolver σ) (q : Resolver τ) : Prop where
  name : r.name = q.name
  invoke : ∀ input, OperationProjects f (r.invoke input) (q.invoke input)
  declaration : OperationProjects f r.declaration q.declaration
  describe : OperationProjects f r.describe q.describe
  fingerprint : OperationProjects f r.fingerprint q.fingerprint
  parser :
    Option.Rel (fun parser kept ↦ ∀ source, OperationProjects f (parser source) (kept source))
      r.parser q.parser

namespace Resolver.Projects

variable {f : σ → τ} {r : Resolver σ} {q : Resolver τ} (h : r.Projects f q)

include h

private theorem declaredMetadata : Trial.Projects f r.declaredMetadata q.declaredMetadata := by
  refine .bind (.ask _ h.declaration) fun declared ↦ ?_
  cases declared with
  | some declaration => exact .pure _
  | none => exact .bind (.ask _ h.describe) fun _ ↦ .pure _

private theorem invokeRounds (n : Nat) (o : Observation) :
    Trial.Projects f (r.invokeRounds n o) (q.invokeRounds n o) := by
  induction n generalizing o with
  | zero => exact .pure _
  | succ n ih =>
    refine .bind (.ask _ (h.invoke _)) fun settled ↦ ?_
    cases settled with
    | ok output => exact ih _
    | error error => exact .pure _

/-- Both are observed alike. -/
theorem observe (repetition : Repetition) :
    Trial.Projects f (r.observe repetition) (q.observe repetition) := by
  refine .bind h.declaredMetadata fun metadata ↦ ?_
  refine .bind (.ask _ h.fingerprint) fun before ↦ ?_
  rw [h.name]
  refine .bind (h.invokeRounds _ _) fun o ↦ ?_
  exact .bind (.ask _ h.fingerprint) fun after ↦ .pure _

variable (s : Suites)

/-- Both make the same of a workflow. -/
theorem parseWorkflow (suite file : String) :
    Trial.Projects f (s.parseWorkflow r suite file) (s.parseWorkflow q suite file) := by
  unfold Suites.parseWorkflow
  cases s.readFile .fixtureMissing (Location.join (s.directory suite) file) with
  | error fault => exact .pure _
  | ok source =>
    rw [h.name]
    have hparser := h.parser
    revert hparser
    cases r.parser <;> cases q.parser <;> intro hparser <;> cases hparser
    · exact .pure _
    · next hparse =>
      refine .bind (.ask _ (hparse source)) fun result ↦ ?_
      cases result with
      | error message => exact .pure _
      | ok output => exact .pure _

/-- Suites are evaluated alike against both. -/
theorem evaluate (suite : String) :
    Trial.Projects f (s.evaluate r suite) (s.evaluate q suite) := by
  unfold Suites.evaluate
  cases s.loadSpec suite with
  | error fault => exact .pure _
  | ok spec =>
    have hacquired :
        Trial.Projects f (s.acquireTarget r suite spec) (s.acquireTarget q suite spec) := by
      unfold Suites.acquireTarget
      split
      · exact .bind (h.observe _) fun o ↦ .pure _
      · cases spec.primaryFixture?.bind Fixture.source? with
        | none => exact .pure _
        | some source =>
          cases source with
          | workflow file => exact h.parseWorkflow s suite file
          | resolverContract file => exact .pure _
    refine .bind hacquired fun acquired ↦ ?_
    cases acquired with
    | error fault => exact .pure _
    | ok target => exact .pure _

/-- Runs against both are alike. -/
theorem runFrom (failed : Nat) (suites : List String) :
    Trial.Projects f (s.runFrom r failed suites) (s.runFrom q failed suites) := by
  induction suites generalizing failed with
  | nil => exact .pure _
  | cons suite rest ih =>
    unfold Suites.runFrom
    split
    · exact .bind (ih failed) fun _ ↦ .pure _
    · have hsuite : Trial.Projects f (s.runSuite r suite) (s.runSuite q suite) := by
        intro state
        rw [Suites.runSuite_eq_attempt, Suites.runSuite_eq_attempt, Suites.attempt, Suites.attempt,
          h.evaluate s suite state]
      exact .bind hsuite fun outcome ↦ .bind (ih _) fun _ ↦ .pure _

/-- A run of suites is the same against both. -/
theorem run (suites : List String) (startedAt completedAt : Timestamp) :
    Trial.Projects f (s.run r suites startedAt completedAt)
      (s.run q suites startedAt completedAt) := by
  unfold Suites.run
  rw [h.name]
  exact .bind (h.runFrom s 0 suites) fun _ ↦ .pure _

end Resolver.Projects

/-! ### Programs on record -/

namespace Program

variable {π : Type}

/-- The state of a program without its record. -/
def offRecord (state : ProgramState (π × List ProgramStart)) : ProgramState π :=
  ⟨state.inner.1, state.declared, state.runs⟩

variable (p : Program π)

private theorem attempt_offRecord (operation : String) (input : List UInt8) :
    OperationProjects offRecord (p.recording.attempt operation input)
      (p.attempt operation input) := by
  intro state
  have hrun : p.recording.run operation input state.inner =
      ((p.run operation input state.inner.1).1, (p.run operation input state.inner.1).2,
        state.inner.2 ++ [p.startIn operation input state]) := rfl
  unfold attempt
  rw [hrun, offRecord]
  rcases p.run operation input state.inner.1 with ⟨result, next⟩
  cases result <;> rfl

/-- A program on record plays the same resolver. -/
theorem recording_projects : p.recording.resolver.Projects offRecord p.resolver where
  name := rfl
  invoke input state := by
    change p.invoke input (offRecord state) = _
    unfold invoke
    rw [p.attempt_offRecord _ _ state]
    rfl
  declaration state := by
    change p.declaration (offRecord state) =
      ((p.recording.declaration state).1, offRecord (p.recording.declaration state).2)
    unfold declaration
    rw [p.attempt_offRecord _ _ state, show (offRecord state).declared = state.declared from rfl]
    cases state.declared <;> rfl
  describe _ := rfl
  fingerprint _ := rfl
  parser := .some fun source state ↦ by
    unfold parse
    rw [p.attempt_offRecord _ _ state]

end Program

end Certification
