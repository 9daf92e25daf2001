import Certification.Command.Publish
import Certification.Resolver.Program

/-!
# The command

From arguments to an exit status. The command reads its arguments and the configuration, makes a
plan, finds the program of the resolver, runs the suites and publishes the run. `Host` is what it
needs from outside: the environment, the clock, and what comes of starting a program. The exit
status is zero only if the resolver is certified, and two if the arguments are not understood.
-/

namespace Certification

/-- What the command needs from outside; a program may keep a state of type `π` between its runs. -/
structure Host (π : Type) where
  /-- Value of a variable of the environment. -/
  environment : String → Option String
  /-- The directory of the configurations of the user. -/
  configHome? : Option String
  /-- What comes of starting the program at a path with an operation and an input. -/
  start : String → String → List UInt8 → π → Except FileError Exchange × π
  /-- When the run starts. -/
  startedAt : Timestamp
  /-- When the run is complete. -/
  completedAt : Timestamp

/-- The program of a resolver: its path, and the name of the resolver (`ProcessResolver`). -/
structure Located where
  path : String
  name : String
  deriving DecidableEq, Repr

/-- Finds the program that a command names, from a directory on (`ProcessResolver::locate`). The
resolver has the name of the file without its last extension. -/
def locate (disk : Disk) (directory command : String) : Except CommandFault Located :=
  let path := Location.join directory command
  if disk.isFile path then .ok ⟨path, (Location.stem? path).getD command⟩
  else .error (.resolverNotFound path)

/-- What the command leaves. -/
structure Finish (π : Type) where
  exit : Nat
  scene : Scene
  /-- The state of the program. -/
  state : π

namespace Host

variable {π : Type}

/-- The program that was found, with a limit for its runs. -/
def program (h : Host π) (located : Located) (limit : Option Duration) : Program π :=
  ⟨located.name, limit, h.start located.path⟩

/-- The path of the configuration (`default_config_path`). -/
def configPath (h : Host π) (a : Arguments) : Except CommandFault String :=
  match a.config, h.configHome? with
  | some path, _ => .ok path
  | none, some home => .ok (Config.userFile home)
  | none, none => .error .configNowhere

/-- What is to be run: the configuration, the plan and the program. -/
def prepare (h : Host π) (a : Arguments) (disk : Disk) :
    Except CommandFault (Config × Plan × Located) := do
  let path ← h.configPath a
  let config ← Config.load disk path
  let plan ← Plan.ofArguments a config
  let located ← locate disk disk.here plan.resolver
  pure (config, plan, located)

/-- Runs the suites of a plan. -/
def trial (h : Host π) (disk : Disk) (c : Config) (p : Plan) (located : Located) :
    Trial (ProgramState π) CertificationRun :=
  Suites.run ⟨disk, p.suitesDir, c.settings⟩ (h.program located p.timeout).resolver p.suites
    h.startedAt h.completedAt

/-- Certifies a resolver (`certify::execute`). -/
def certify (h : Host π) (a : Arguments) (scene : Scene) (state : π) :
    Except CommandFault Bool × Scene × π :=
  match h.prepare a scene.disk with
  | .error fault => (.error fault, scene, state)
  | .ok (config, plan, located) =>
    let trace := h.trial scene.disk config plan located (Program.start state)
    match ended : trace.answer with
    | .ok run =>
      let published := publish plan config run scene
      (published.1, published.2, trace.state.inner)
    | .error _ => absurd ended (Suites.run_answer_ne_error _ _ _ _ _ _ _)

/-- Name and version of the command. -/
def versionText : String := "olang-certify 0.1.3\n"

/-- Usage of the command. -/
def usageText : String := "Usage: olang-certify [OPTIONS]\n"

/-- What the command can be told. -/
def helpText : String :=
  "O-lang resolver conformance certification\n\n" ++ usageText ++ "\nOptions:\n" ++
    String.join (CommandOption.all.map fun o ↦
      "  " ++ (o.letter?.elim "    " fun c ↦ "-" ++ c.toString ++ ", ") ++ o.display ++ "\n")

/-- Runs the command (`main`). -/
def run (h : Host π) (arguments : List String) (disk : Disk) (state : π) : Finish π :=
  match Arguments.read arguments with
  | .error fault =>
    ⟨2, ⟨disk, "", "error: " ++ fault.message ++ "\n\n" ++ usageText⟩, state⟩
  | .ok .help => ⟨0, ⟨disk, helpText, ""⟩, state⟩
  | .ok .version => ⟨0, ⟨disk, versionText, ""⟩, state⟩
  | .ok (.certify a) =>
    match h.certify (a.withEnvironment h.environment) ⟨disk, "", ""⟩ state with
    | (.ok certified, scene, state) => ⟨if certified then 0 else 1, scene, state⟩
    | (.error fault, scene, state) =>
      ⟨1, { scene with errors := scene.errors ++ failureLine fault.message ++ "\n" }, state⟩

end Host

end Certification
