import Certification.Files.Error
import Certification.Json.Decode

/-!
# Faults of a suite

Why a suite is not evaluated. Every fault but one is a problem of the files of the suite or of what
the resolver offers.
-/

namespace Certification

/-- Why a suite is not evaluated (`ConformanceError`). -/
inductive SuiteFault where
  | specMissing (path : String)
  | specInvalid (path : String) (cause : DecodeError)
  | fixtureMissing (path : String)
  | unreadable (path : String) (cause : FileError)
  | contractInvalid (path : String) (cause : DecodeError)
  | fixtureUnrecognized (suite : String)
  | parserMissing (resolver : String)
  | parserRejected (suite message : String)
  /-- The books of an observation cannot be kept. -/
  | observationFailed (detail : String)
  deriving DecidableEq

namespace SuiteFault

/-- The wording of a fault. -/
def message : SuiteFault → String
  | .specMissing path => "Test spec not found: " ++ path
  | .specInvalid path cause => "Invalid test spec " ++ path ++ ": " ++ cause.message
  | .fixtureMissing path => "Fixture file missing: " ++ path
  | .unreadable path cause => "Failed to read " ++ path ++ ": " ++ cause.message
  | .contractInvalid path cause =>
    "Failed to load resolver contract " ++ path ++ ": " ++ cause.message
  | .fixtureUnrecognized suite => "Unrecognized fixture in suite " ++ suite
  | .parserMissing resolver => "Resolver '" ++ resolver ++ "' does not expose a workflow parser"
  | .parserRejected suite message => "Parse failed for " ++ suite ++ ": " ++ message
  | .observationFailed detail => "Runtime observation failed: " ++ detail

/-- Whether the fault lies in the run itself (`ConformanceError::is_crash`). -/
def isCrash : SuiteFault → Bool
  | .observationFailed _ => true
  | _ => false

end SuiteFault

end Certification
