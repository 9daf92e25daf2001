import Certification.Files.Error

/-!
# Faults of the command

Why the command ends without a verdict, once its arguments are understood.
-/

namespace Certification

/-- Why the command ends without a verdict (`CliError`). -/
inductive CommandFault where
  /-- A file cannot be read or written. -/
  | file (cause : FileError)
  /-- The configuration is not TOML, or not of the expected form. -/
  | configInvalid
  /-- There is no directory for the configuration of the user. -/
  | configNowhere
  | resolverMissing
  | resolverNotFound (path : String)
  deriving DecidableEq, Repr

/-- The wording of a fault. -/
def CommandFault.message : CommandFault → String
  | .file cause => "IO error: " ++ cause.message
  | .configInvalid => "Configuration error: invalid configuration"
  | .configNowhere => "Configuration error: Cannot find config directory"
  | .resolverMissing => "No resolver given: pass --resolver or set OLANG_RESOLVER"
  | .resolverNotFound path => "Resolver not found: " ++ path

end Certification
