import Certification.Command.Certify
import Certification.Resolver.Transcript
import Std.Time.Format

/-!
# Program

The outer layer of the command. It takes a picture of the files that the command reads or writes,
wherever they are, runs the command on it, writes the files that have changed and prints what is to
be printed. The program of a resolver is not started: the file stands for its transcript.
-/

namespace Certification

/-- The files of a suite: its specification and the fixtures that it names. -/
def Suites.files (s : Suites) (suite : String) : List String :=
  let fixtures := match s.loadSpec suite with
    | .error _ => []
    | .ok spec => spec.fixtures.inputs.flatMap fun f ↦
        f.workflow.toList ++ f.resolverContract.toList
  (s.settings.specFile :: fixtures).map (Location.join (s.directory suite))

/-- The files that the command reads or writes after its configuration. -/
def filesOfConfig (a : Arguments) (disk : Disk) (path : String) :
    Except CommandFault (List String) := do
  let config ← Config.load disk path
  let plan ← Plan.ofArguments a config
  let suites : Suites := ⟨disk, plan.suitesDir, config.settings⟩
  let badge := Location.join config.badgeDirectory "certified.svg"
  pure (Location.join disk.here plan.resolver :: config.reportFile :: badge ::
    plan.suites.flatMap suites.files)

/-- The files that the command reads or writes, as far as those on a disk tell. -/
def Host.files {π : Type} (h : Host π) (a : Arguments) (disk : Disk) : List String :=
  match h.configPath a with
  | .error _ => []
  | .ok path => path :: (filesOfConfig a disk path).toOption.getD []

/-- What stands at a path, if it can be read. -/
def nodeAt? (path : String) : IO (Option Node) :=
  try
    let real ← IO.FS.realPath path
    match (← real.metadata).type with
    | .dir => pure (some .directory)
    | .file =>
      let bytes ← IO.FS.readBinFile real
      pure (some (.file bytes.toList))
    | _ => pure none
  catch _ => pure none

/-- Adds to a picture what stands where names lead to from a place with a path. -/
def lookAlong (disk : Disk) (place : Place) (path : String) : List String → IO Disk
  | [] => pure disk
  | name :: names => do
    let place := disk.next place name
    let path := Location.join path name
    let found ← if (disk.node? place).isSome then pure none else nodeAt? path
    lookAlong (found.elim disk (disk.put place)) place path names

/-- Adds to a picture what stands along a path. -/
def look (disk : Disk) (path : String) : IO Disk :=
  let route := disk.start path
  lookAlong disk route.1 (if Location.isAbsolute path then "/" else "") route.2

/-- A picture of the files that the command reads or writes. The configuration tells where the
suites are, and their specifications tell where the fixtures are. -/
def picture {π : Type} (h : Host π) (a : Arguments) (here : String) : IO Disk := do
  let configured ← (h.files a (.empty here)).foldlM look (.empty here)
  let specified ← (h.files a configured).foldlM look configured
  (h.files a specified).foldlM look specified

/-- The current moment. -/
def currentMoment : IO Timestamp := do
  let now ← Std.Time.Timestamp.now
  let nanos := now.toNanosecondsSinceUnixEpoch.val
  pure ⟨nanos / 10 ^ 9, (nanos % 10 ^ 9).toNat⟩

/-- What comes of a program whose transcript lies at a path. -/
def startTranscript (disk : Disk) (path operation : String) : Except FileError Exchange :=
  match disk.read path with
  | .error cause => .error cause
  | .ok bytes =>
    match Decoder.ofBytes Transcript.decode bytes with
    | .error _ => .error .permissionDenied
    | .ok transcript => transcript.replay operation

/-- The directory of the configurations of the user. -/
def userConfigHome : IO (Option String) := do
  let named ← IO.getEnv "XDG_CONFIG_HOME"
  match named.filter Location.isAbsolute with
  | some home => pure home
  | none =>
    let home ← IO.getEnv "HOME"
    pure (home.map (Location.join · ".config"))

/-- An absolute path of a place. -/
def Disk.pathOf (disk : Disk) : Place → String
  | .inside names => Location.join disk.here (Location.ofSteps false names)
  | .beyond names => Location.ofSteps true names

/-- Writes what has changed on a disk. -/
def writeChanges (before after : Disk) : IO Unit :=
  for (place, node) in after.nodes.reverse do
    if before.nodes.lookup place != some node then
      match node with
      | .directory => IO.FS.createDirAll (after.pathOf place)
      | .file content => IO.FS.writeBinFile (after.pathOf place) ⟨content.toArray⟩

end Certification

open Certification

/-- Runs the command. -/
def main (arguments : List String) : IO UInt32 := do
  let directory ← IO.currentDir
  let resolver ← IO.getEnv "OLANG_RESOLVER"
  let config ← IO.getEnv "OLANG_CONFORMANCE_CONFIG"
  let exported := [("OLANG_RESOLVER", resolver), ("OLANG_CONFORMANCE_CONFIG", config)]
  let now ← currentMoment
  let idle : Host Unit :=
    { environment := fun name ↦ (exported.lookup name).join
      configHome? := ← userConfigHome
      start := fun _ _ _ state ↦ (.error .notFound, state)
      startedAt := now
      completedAt := now }
  let disk ← match Arguments.read arguments with
    | .ok (.certify a) => picture idle (a.withEnvironment idle.environment) directory.toString
    | _ => pure (.empty directory.toString)
  let host : Host Unit :=
    { idle with
      start := fun path operation _ state ↦ (startTranscript disk path operation, state) }
  let finish := host.run arguments disk ()
  writeChanges disk finish.scene.disk
  IO.print finish.scene.output
  IO.eprint finish.scene.errors
  pure finish.exit.toUInt32
