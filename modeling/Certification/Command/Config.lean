import Certification.Command.Fault
import Certification.Files.Disk
import Certification.Suite.Settings
import Certification.Toml.Reader

/-!
# Configuration of the command

What the command can be told in a file, all of it optional: the resolver, the suites and where they
are, how long a run of the resolver may take, where the report and the badge go, and the settings of
the run. A file that does not exist tells nothing; when no suite is named, the kernel suites are
run.
-/

namespace Certification

/-- The configuration of the command (`CliConfig`). -/
structure Config where
  resolver : Option String
  suitesDir : Option String
  suites : List String
  /-- How many seconds a run of the resolver may take. -/
  timeoutSeconds : Option Nat
  reportPath : Option String
  badgeDir : Option String
  settings : Settings
  deriving DecidableEq, Repr

namespace Config

/-- The configuration that tells nothing. -/
def default : Config := ⟨none, none, [], none, none, none, .default⟩

instance : Inhabited Config := ⟨default⟩

/-- The suites that are run when none is named (`KERNEL_SUITES`). -/
def kernelSuites : List String :=
  ["R-001-allowlist", "R-002-io-contract", "R-003-failure-modes", "R-004-invalid-syntax",
   "R-005-resolver-metadata-contract"]

/-- The suites to run (`suites_or_default`). -/
def suitesOrKernel (c : Config) : List String :=
  if c.suites.isEmpty then kernelSuites else c.suites

/-- Where the report is written (`CliConfig::report_path`). -/
def reportFile (c : Config) : String := c.reportPath.getD "conformance-report.json"

/-- The directory in which the badge is written (`CliConfig::badge_dir`). -/
def badgeDirectory (c : Config) : String := c.badgeDir.getD "badges"

/-! ## Data form -/

/-- The fields of a configuration in data. -/
def dataShape : Shape where
  name := "CliConfig"
  fields :=
    [.optional "resolver" Decoder.string [], .optional "suites_dir" Decoder.string [],
     .of "suites" (Decoder.list Decoder.string) [],
     .optional "invocation_timeout_secs" Decoder.nat64 [],
     .optional "report_path" Decoder.string [], .optional "badge_dir" Decoder.string [],
     .of "conformance" Settings.decode []]

/-- Reads a configuration; what is not told keeps its default. -/
def decode : Decoder Config := fun origin d ↦ do
  let fields ← dataShape.gather origin d
  let resolver ← fields.optional origin "resolver" Decoder.string
  let suitesDir ← fields.optional origin "suites_dir" Decoder.string
  let suites ← fields.withDefault origin "suites" [] (Decoder.list Decoder.string)
  let timeoutSeconds ← fields.optional origin "invocation_timeout_secs" Decoder.nat64
  let reportPath ← fields.optional origin "report_path" Decoder.string
  let badgeDir ← fields.optional origin "badge_dir" Decoder.string
  let settings ← fields.withDefault origin "conformance" .default Settings.decode
  pure ⟨resolver, suitesDir, suites, timeoutSeconds, reportPath, badgeDir, settings⟩

/-- The configuration in data. -/
def toJson (c : Config) : Json :=
  .record
    [("resolver", .ofOption .string c.resolver), ("suites_dir", .ofOption .string c.suitesDir),
     ("suites", .ofStrings c.suites),
     ("invocation_timeout_secs", .ofOption .ofNat c.timeoutSeconds),
     ("report_path", .ofOption .string c.reportPath),
     ("badge_dir", .ofOption .string c.badgeDir), ("conformance", c.settings.toJson)]

/-! ## Files -/

/-- The configuration in the text of a file. -/
def ofText (text : String) : Except CommandFault Config :=
  match Toml.document? text with
  | none => .error .configInvalid
  | some d => (decode .foreign d).mapError fun _ ↦ .configInvalid

/-- The configuration in a file; the default one when nothing is there (`CliConfig::load`). -/
def load (disk : Disk) (path : String) : Except CommandFault Config :=
  if disk.exists? path then
    match disk.readText path with
    | .ok text => ofText text
    | .error cause => .error (.file cause)
  else .ok default

/-- Path of the configuration of the user, below the directory of all configurations. -/
def userFile (home : String) : String :=
  Location.join (Location.join home "olang") "conformance.toml"

/-- There is always a suite to run. -/
theorem suitesOrKernel_ne_nil (c : Config) : c.suitesOrKernel ≠ [] := by
  unfold suitesOrKernel
  split
  · simp [kernelSuites]
  · next h => simpa using h

end Config

end Certification
