import Certification.Command.Certify
import Certification.Proofs.Chain

/-!
# What a command line engages

A command line engages a program when it is understood, asks for a certification, and everything
that is needed for one is found. `Host.run_of_engaged` and `Host.run_of_not_engaged` say what the
command does in either case: it runs the suites and publishes the run, or it does nothing to the
files and starts nothing.
-/

namespace Certification

namespace Host

variable {π : Type}

/-- What is certified, unless the command ends before: the configuration, the plan and the
program. -/
def engagement? (h : Host π) (arguments : List String) (disk : Disk) :
    Option (Config × Plan × Located) :=
  match Arguments.read arguments with
  | .ok (.certify a) => (h.prepare (a.withEnvironment h.environment) disk).toOption
  | _ => none

/-- What the command leaves once a run is published, or once a fault has ended that. -/
def finishOf (published : Except CommandFault Bool × Scene) (state : π) : Finish π :=
  match published with
  | (.ok certified, scene) => ⟨if certified then 0 else 1, scene, state⟩
  | (.error fault, scene) =>
    ⟨1, { scene with errors := scene.errors ++ failureLine fault.message ++ "\n" }, state⟩

variable (h : Host π)

/-- What is prepared: a configuration, a plan made with it, and the program that the plan names. -/
theorem prepare_eq_ok_iff {a : Arguments} {disk : Disk} {c : Config} {p : Plan}
    {located : Located} :
    h.prepare a disk = .ok (c, p, located) ↔
      ∃ path, h.configPath a = .ok path ∧ Config.load disk path = .ok c ∧
        Plan.ofArguments a c = .ok p ∧ locate disk disk.here p.resolver = .ok located := by
  simp only [prepare, bind_eq_ok_iff, pure, Except.pure, Except.ok.injEq, Prod.mk.injEq]
  constructor
  · rintro ⟨path, hpath, _, hload, _, hplan, _, hlocate, rfl, rfl, rfl⟩
    exact ⟨path, hpath, hload, hplan, hlocate⟩
  · rintro ⟨path, hpath, hload, hplan, hlocate⟩
    exact ⟨path, hpath, c, hload, p, hplan, located, hlocate, rfl, rfl, rfl⟩

/-- What is engaged was prepared. -/
theorem prepare_of_engaged {arguments : List String} {disk : Disk} {c : Config} {p : Plan}
    {located : Located} (he : h.engagement? arguments disk = some (c, p, located)) :
    ∃ a, Arguments.read arguments = .ok (.certify a) ∧
      h.prepare (a.withEnvironment h.environment) disk = .ok (c, p, located) := by
  unfold engagement? at he
  split at he
  · next a hread => exact ⟨a, hread, eq_ok_of_toOption he⟩
  · cases he

/-- A fault of the preparation ends the command before anything is run. -/
theorem certify_of_prepare_error {a : Arguments} (scene : Scene) {fault : CommandFault}
    (hp : h.prepare a scene.disk = .error fault) (state : π) :
    h.certify a scene state = (.error fault, scene, state) := by
  unfold certify
  rw [hp]

/-- What is prepared is run, and the run is published. -/
theorem certify_of_prepare_ok {a : Arguments} (scene : Scene) {c : Config} {p : Plan}
    {located : Located} (hp : h.prepare a scene.disk = .ok (c, p, located)) (state : π) :
    ∃ run, (h.trial scene.disk c p located (Program.start state)).answer = .ok run ∧
      h.certify a scene state =
        ((publish p c run scene).1, (publish p c run scene).2,
          (h.trial scene.disk c p located (Program.start state)).state.inner) := by
  unfold certify
  rw [hp]
  dsimp only
  split
  · next run hrun => exact ⟨run, hrun, rfl⟩
  · next panic hpanic =>
    exact absurd hpanic (Suites.run_answer_ne_error _ _ _ _ _ _ panic)

/-- The command leaves what the certification that it is asked for comes to. -/
theorem run_of_read {arguments : List String} {a : Arguments}
    (hread : Arguments.read arguments = .ok (.certify a)) (disk : Disk) (state : π) :
    h.run arguments disk state =
      let certified := h.certify (a.withEnvironment h.environment) ⟨disk, "", ""⟩ state
      finishOf (certified.1, certified.2.1) certified.2.2 := by
  unfold run
  rw [hread]
  dsimp only
  rcases h.certify (a.withEnvironment h.environment) ⟨disk, "", ""⟩ state with
    ⟨verdict, scene, left⟩
  cases verdict <;> rfl

/-- A command that engages a program runs the suites and publishes the run. -/
theorem run_of_engaged {arguments : List String} {disk : Disk} {c : Config} {p : Plan}
    {located : Located} (he : h.engagement? arguments disk = some (c, p, located)) (state : π) :
    ∃ run, (h.trial disk c p located (Program.start state)).answer = .ok run ∧
      h.run arguments disk state = finishOf (publish p c run ⟨disk, "", ""⟩)
        (h.trial disk c p located (Program.start state)).state.inner := by
  obtain ⟨a, hread, hp⟩ := h.prepare_of_engaged he
  obtain ⟨run, hrun, hcertify⟩ := h.certify_of_prepare_ok ⟨disk, "", ""⟩ hp state
  exact ⟨run, hrun, by rw [h.run_of_read hread, hcertify]⟩

/-- A command that engages no program leaves the files and the program alone. -/
theorem run_of_not_engaged {arguments : List String} {disk : Disk}
    (he : h.engagement? arguments disk = none) (state : π) :
    (h.run arguments disk state).scene.disk = disk ∧
      (h.run arguments disk state).state = state := by
  unfold engagement? at he
  unfold run
  cases hread : Arguments.read arguments with
  | error fault => exact ⟨rfl, rfl⟩
  | ok request =>
    cases request with
    | help => exact ⟨rfl, rfl⟩
    | version => exact ⟨rfl, rfl⟩
    | certify a =>
      rw [hread] at he
      dsimp only at he ⊢
      cases hp : h.prepare (a.withEnvironment h.environment) disk with
      | error fault =>
        rw [h.certify_of_prepare_error ⟨disk, "", ""⟩ hp]
        exact ⟨rfl, rfl⟩
      | ok found =>
        rw [hp] at he
        cases he

end Host

end Certification
