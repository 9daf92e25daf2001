import Certification.Command.Plan
import Certification.Report

/-!
# Publishing a run

What the command says about a run and writes of it: the report as JSON, on the output and in a file,
or a line for every suite; the badge; and the verdict in one line. An `Action` changes a `Scene`,
which holds the files and what was printed so far, and may end in a fault; what was done before the
fault stays.
-/

namespace Certification

/-- The files, and what was printed. -/
structure Scene where
  disk : Disk
  output : String
  errors : String

/-- Something that changes a scene and gives a result, unless it ends in a fault. -/
def Action (α : Type) := Scene → Except CommandFault α × Scene

namespace Action

variable {α β : Type}

/-- No change. -/
protected def pure (a : α) : Action α := fun scene ↦ (.ok a, scene)

/-- One action after the other, unless the first one ends in a fault. -/
protected def bind (m : Action α) (f : α → Action β) : Action β := fun scene ↦
  match m scene with
  | (.ok a, scene) => f a scene
  | (.error fault, scene) => (.error fault, scene)

instance : Monad Action where
  pure := Action.pure
  bind := Action.bind

/-- Prints a line. -/
def say (line : String) : Action Unit := fun scene ↦
  (.ok (), { scene with output := scene.output ++ line ++ "\n" })

/-- Prints a line on the error output. -/
def warn (line : String) : Action Unit := fun scene ↦
  (.ok (), { scene with errors := scene.errors ++ line ++ "\n" })

/-- Changes the files. -/
def change (f : Disk → Except FileError Disk) : Action Unit := fun scene ↦
  match f scene.disk with
  | .ok disk => (.ok (), { scene with disk })
  | .error cause => (.error (.file cause), scene)

end Action

/-! ## Lines -/

/-- Line of a success (`print_success`). -/
def successLine (message : String) : String := "✓ " ++ message

/-- Line of a failure (`print_error`). -/
def failureLine (message : String) : String := "✗ " ++ message

/-- Line of a remark (`print_info`). -/
def remarkLine (message : String) : String := "ℹ " ++ message

/-- Lines of an outcome: how the suite ends, and every failure (`print_outcome`). -/
def SuiteOutcome.lines (o : SuiteOutcome) : List String :=
  match o.status with
  | .passed => [successLine (o.suite ++ " passed")]
  | .failed verdict =>
    failureLine (o.suite ++ " failed") :: verdict.failures.map fun f ↦ "    " ++ f.line
  | .loadFailed reason => [failureLine (o.suite ++ " not evaluated: " ++ reason)]
  | .crashed reason => ["! " ++ o.suite ++ " crashed: " ++ reason]
  | .skipped => ["○ " ++ o.suite ++ " skipped"]

/-! ## Files -/

/-- Writes a text to a file, below directories that are made when they are missing
(`write_report`). -/
def saveReport (path text : String) : Action Unit := do
  match Location.parent? path with
  | some parent => if parent = "" then pure () else .change (·.makeDirectories parent)
  | none => pure ()
  .change (·.write path (Text.Utf8.encode text))

/-- Writes a badge to a file in a directory, which is made when it is missing: the path of it
(`write_badge`). -/
def saveBadge (directory : String) (badge : String) : Action String := do
  .change (·.makeDirectories directory)
  let path := Location.join directory "certified.svg"
  .change (·.write path (Text.Utf8.encode badge))
  pure path

/-! ## Runs -/

/-- Prints and writes a report. -/
def publishReport (c : Config) (report : Report) : Action Unit := do
  .say report.json
  saveReport c.reportFile report.json

/-- Prints the outcomes of a run. -/
def publishOutcomes : List SuiteOutcome → Action Unit
  | [] => pure ()
  | o :: rest => do
    .say ("\n".intercalate o.lines)
    publishOutcomes rest

/-- Writes the badge of a report, and says where. -/
def publishBadge (c : Config) (report : Report) : Action Unit := do
  let path ← saveBadge c.badgeDirectory report.badgeOf
  .say (remarkLine ("Badge written to " ++ path))

/-- Prints the verdict on a run (`print_summary`). -/
def publishVerdict (run : CertificationRun) : Action Unit :=
  if run.isCertified then
    .say (successLine ("All " ++ toString run.passed ++ " resolver suite(s) passed"))
  else .warn (failureLine (toString run.failed ++ " resolver suite(s) failed"))

/-- Publishes a run: whether the resolver is certified (`certify::execute`). -/
def publish (p : Plan) (c : Config) (run : CertificationRun) : Action Bool := do
  let report := Report.ofRun run
  if p.json then publishReport c report else publishOutcomes run.outcomes
  if p.badge then publishBadge c report
  if !p.json then publishVerdict run
  pure run.isCertified

end Certification
