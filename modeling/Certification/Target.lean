import Certification.Assertion.Kind
import Certification.Contract
import Certification.Observation.Basic
import Certification.Workflow.Basic

/-!
# Targets

What the assertions of a suite examine.
-/

namespace Certification

/-- What is examined, of one of three shapes. -/
inductive Target where
  | workflow (ast : WorkflowAst) (status : ParseStatus)
  | metadata (contract : ResolverContract)
  | runtime (observation : Observation)
  deriving DecidableEq

namespace Target

/-- The shape of a target (`Target::shape`). -/
def shape : Target → TargetShape
  | .workflow _ _ => .workflow
  | .metadata _ => .metadata
  | .runtime _ => .runtime

/-- The target of a parser's output. -/
def ofParseOutput (output : ParseOutput) : Target := .workflow output.ast output.status

end Target

end Certification
