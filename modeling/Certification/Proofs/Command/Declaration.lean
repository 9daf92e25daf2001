import Certification.Proofs.Command.Engagement
import Certification.Proofs.Files.Stem
import Certification.Proofs.Suite.Declared

/-!
# One declaration for a certification

However the program of a resolver behaves, a certification starts it for its declaration once, if a
suite is observed, and not at all otherwise. What it prints then, or else the name of its file, is
what all observed suites are judged against.
-/

namespace Certification

private theorem stem?_of_locate {disk : Disk} {directory command : String} {located : Located}
    (h : locate disk directory command = .ok located) :
    Location.stem? located.path = some located.name := by
  unfold locate at h
  dsimp only at h
  split at h
  · next hfile =>
    cases h
    obtain ⟨stem, hstem⟩ := Disk.exists_stem?_of_isFile hfile
    dsimp only
    rw [hstem, Option.getD_some]
  · cases h

namespace Host

variable {π : Type}

/-- The host that keeps a record of the starts of programs. -/
def recording (h : Host π) : Host (π × List ProgramStart) where
  environment := h.environment
  configHome? := h.configHome?
  start path operation input state :=
    let r := h.start path operation input state.1
    (r.1, r.2, state.2 ++ [⟨operation, input, r.1⟩])
  startedAt := h.startedAt
  completedAt := h.completedAt

variable (h : Host π) (arguments : List String) (disk : Disk) (state : π)

private theorem trial_recording (c : Config) (p : Plan) (located : Located) :
    (h.trial disk c p located (Program.start state)).answer =
        (h.recording.trial disk c p located (Program.start (state, []))).answer ∧
      (h.trial disk c p located (Program.start state)).state.inner =
        (h.recording.trial disk c p located (Program.start (state, []))).state.inner.1 := by
  have hprojects := (h.program located p.timeout).recording_projects.run
    ⟨disk, p.suitesDir, c.settings⟩ p.suites h.startedAt h.completedAt (Program.start (state, []))
  exact ⟨congrArg Trace.answer hprojects, congrArg (·.state.inner) hprojects⟩

/-- The starts of the program in a run of the command, in order, and what came of them. -/
def starts : List ProgramStart := (h.recording.run arguments disk (state, [])).state.2

/-- The starts of the program for its declaration. -/
def questions : List ProgramStart :=
  (h.starts arguments disk state).filter (·.operation = "describe")

/-- Where no program is engaged a record does not change what the command does. -/
theorem finish_recording_of_not_engaged (he : h.engagement? arguments disk = none) :
    (h.recording.run arguments disk (state, [])).exit = (h.run arguments disk state).exit ∧
      (h.recording.run arguments disk (state, [])).scene = (h.run arguments disk state).scene := by
  unfold engagement? at he
  unfold Host.run
  cases hread : Arguments.read arguments with
  | error fault => exact ⟨rfl, rfl⟩
  | ok request =>
    cases request with
    | help => exact ⟨rfl, rfl⟩
    | version => exact ⟨rfl, rfl⟩
    | certify a =>
      rw [hread] at he
      change (h.prepare (a.withEnvironment h.environment) disk).toOption = none at he
      dsimp only
      cases hp : h.prepare (a.withEnvironment h.environment) disk with
      | error fault =>
        have hp' : h.recording.prepare (a.withEnvironment h.recording.environment) disk =
            .error fault := hp
        rw [h.certify_of_prepare_error ⟨disk, "", ""⟩ hp,
          h.recording.certify_of_prepare_error ⟨disk, "", ""⟩ hp']
        exact ⟨rfl, rfl⟩
      | ok found =>
        rw [hp] at he
        cases he

/-- A record does not change what the command does. -/
theorem run_recording :
    h.recording.run arguments disk (state, []) =
      ⟨(h.run arguments disk state).exit, (h.run arguments disk state).scene,
        ((h.run arguments disk state).state, h.starts arguments disk state)⟩ := by
  have hfinish : (h.recording.run arguments disk (state, [])).exit =
        (h.run arguments disk state).exit ∧
      (h.recording.run arguments disk (state, [])).scene = (h.run arguments disk state).scene ∧
      (h.recording.run arguments disk (state, [])).state.1 =
        (h.run arguments disk state).state := by
    cases he : h.engagement? arguments disk with
    | none =>
      obtain ⟨hexit, hscene⟩ := h.finish_recording_of_not_engaged arguments disk state he
      have hleft := (h.run_of_not_engaged he state).2
      have hleft' := (h.recording.run_of_not_engaged he (state, [])).2
      exact ⟨hexit, hscene, by rw [hleft, hleft']⟩
    | some engaged =>
      obtain ⟨c, p, located⟩ := engaged
      obtain ⟨run, hrun, hleft⟩ := h.run_of_engaged he state
      obtain ⟨run', hrun', hleft'⟩ := h.recording.run_of_engaged he (state, [])
      obtain ⟨hanswer, hstate⟩ := h.trial_recording disk state c p located
      obtain rfl : run = run' := by
        rw [hrun, hrun'] at hanswer
        exact Except.ok.inj hanswer
      rw [hleft, hleft', hstate]
      rcases publish p c run ⟨disk, "", ""⟩ with ⟨verdict, scene⟩
      cases verdict <;> exact ⟨rfl, rfl, rfl⟩
  obtain ⟨hexit, hscene, hstate⟩ := hfinish
  rw [← hexit, ← hscene, ← hstate]
  rfl

private theorem starts_of_engaged {c : Config} {p : Plan} {located : Located}
    (he : h.engagement? arguments disk = some (c, p, located)) :
    h.starts arguments disk state =
      (h.recording.trial disk c p located (Program.start (state, []))).state.inner.2 := by
  obtain ⟨run, -, hleft⟩ := h.recording.run_of_engaged he (state, [])
  rw [starts, hleft]
  rcases publish p c run ⟨disk, "", ""⟩ with ⟨verdict, scene⟩
  cases verdict <;> rfl

/-- In a run of the command that engages a program, and however the program behaves, the program is
started for its declaration once at most, and then before it is first invoked: once exactly when a
suite that is not skipped is observed. The outcomes of all observed suites are verdicts on
observations that are held against the same metadata: what that one start prints, if it succeeds in
time and prints JSON, and else the description by the name of the file of the program. If no program
is engaged, none is started. The record of the starts does not change the run. -/
theorem run_declares_once :
    (h.questions arguments disk state).length ≤ 1 ∧
    (∀ x ∈ (h.starts arguments disk state).takeWhile (·.operation ≠ "describe"),
      x.operation ≠ "invoke") ∧
    h.recording.run arguments disk (state, []) =
      ⟨(h.run arguments disk state).exit, (h.run arguments disk state).scene,
        ((h.run arguments disk state).state, h.starts arguments disk state)⟩ ∧
    match h.engagement? arguments disk with
    | none => h.starts arguments disk state = []
    | some (c, p, located) =>
      let s : Suites := ⟨disk, p.suitesDir, c.settings⟩
      let r := (h.program located p.timeout).resolver
      ∃ run metadata, (h.trial disk c p located (Program.start state)).answer = .ok run ∧
        ((h.questions arguments disk state).length = 1 ↔
          ∃ o ∈ run.outcomes, o.status ≠ .skipped ∧ s.IsObserved o.suite) ∧
        (∀ i o, run.outcomes[i]? = some o → o.status ≠ .skipped → s.IsObserved o.suite →
          s.IsJudgedAgainst r (s.stateBefore r p.suites (Program.start state) i) o metadata) ∧
        ∀ x ∈ h.questions arguments disk state,
          (∀ j, x.Prints p.timeout j → metadata = ⟨j⟩) ∧
          ((¬∃ j, x.Prints p.timeout j) →
            ∃ stem, Location.stem? located.path = some stem ∧
              metadata = ⟨Resolver.nameOnly stem⟩) := by
  cases he : h.engagement? arguments disk with
  | none =>
    have hstarts : h.starts arguments disk state = [] :=
      congrArg Prod.snd (h.recording.run_of_not_engaged he (state, [])).2
    have hquestions : h.questions arguments disk state = [] := by rw [questions, hstarts]; rfl
    refine ⟨by simp [hquestions], by simp [hstarts], h.run_recording arguments disk state, hstarts⟩
  | some engaged =>
    obtain ⟨c, p, located⟩ := engaged
    let s : Suites := ⟨disk, p.suitesDir, c.settings⟩
    let program := h.program located p.timeout
    obtain ⟨a, -, hp⟩ := h.prepare_of_engaged he
    obtain ⟨_, -, -, -, hlocate⟩ := h.prepare_eq_ok_iff.mp hp
    have hstart : program.OnRecord none (Program.start (state, [])) :=
      ⟨rfl, .unasked (by simp [Program.start])⟩
    obtain ⟨run, later, hrun, ⟨-, hsettled⟩, hasked, hjudged⟩ :=
      program.run_onRecord s p.suites h.startedAt h.completedAt hstart
    have hstarts := h.starts_of_engaged arguments disk state he
    have hanswer := (h.trial_recording disk state c p located).1.trans hrun
    change Settled p.timeout
      (h.recording.trial disk c p located (Program.start (state, []))).state.inner.2
        later at hsettled
    rw [← hstarts] at hsettled
    have hjudged' {told : Option Json} (hl : later = some told) (i : Nat) (o : SuiteOutcome)
        (ho : run.outcomes[i]? = some o) (hs : o.status ≠ .skipped) (hobs : s.IsObserved o.suite) :
        s.IsJudgedAgainst program.resolver
          (s.stateBefore program.resolver p.suites (Program.start state) i) o
          ⟨told.getD (Resolver.nameOnly located.name)⟩ := by
      obtain ⟨told', ht, hj⟩ := hjudged i o ho hs hobs
      rw [hl] at ht
      obtain rfl := Option.some.inj ht
      have hkept := program.recording_projects.isJudgedAgainst s hj
      rw [← program.recording_projects.stateBefore s] at hkept
      exact hkept
    refine ⟨?_, fun x hx ↦ ?_, h.run_recording arguments disk state, ?_⟩
    · rcases hsettled.filter_describe with ⟨-, hnone⟩ | ⟨x, -, hone⟩
      · rw [questions, hnone]
        exact Nat.zero_le _
      · rw [questions, hone]
        exact Nat.le_refl _
    · rw [hsettled.parse_of_mem_takeWhile hx]
      decide
    · rcases hsettled.filter_describe with ⟨hl, hnone⟩ | ⟨x, hl, hone⟩
      · rw [questions, hnone]
        have hunasked : ¬∃ o ∈ run.outcomes, o.status ≠ .skipped ∧ s.IsObserved o.suite := by
          rw [← hasked, hl]
          exact Bool.false_ne_true
        refine ⟨run, ⟨Resolver.nameOnly located.name⟩, hanswer, by simpa using hunasked,
          fun i o ho hs hobs ↦ ?_, by simp⟩
        exact absurd ⟨o, List.mem_of_getElem? ho, hs, hobs⟩ hunasked
      · rw [questions, hone]
        refine ⟨run, ⟨(x.declared? p.timeout).getD (Resolver.nameOnly located.name)⟩, hanswer,
          iff_of_true rfl (hasked.mp (by rw [hl]; rfl)), hjudged' hl, fun y hy ↦ ?_⟩
        obtain rfl := List.mem_singleton.mp hy
        refine ⟨fun j hj ↦ ?_, fun hno ↦ ⟨located.name, stem?_of_locate hlocate, ?_⟩⟩
        · rw [ProgramStart.declared?_eq_some_iff.mpr hj, Option.getD_some]
        · cases hd : y.declared? p.timeout with
          | none => rfl
          | some j => exact absurd ⟨j, ProgramStart.declared?_eq_some_iff.mp hd⟩ hno

end Host

end Certification
