import Certification.Json.Basic

/-!
# Parsed workflows

What a workflow parser hands back: the structure of the workflow and the status of the parse.
A step and the status keep the fields that have no meaning here, so that nothing that was printed is
lost. `ParseStatus.tree` is the value that status lookups run on: the fields that were kept, and the
warnings under both of their names.
-/

namespace Certification

/-- What a step does when a resolver raises an error code. -/
structure FailurePolicy where
  action : Option String
  count : Option Nat
  deriving DecidableEq, Repr

/-- A step of a workflow. -/
structure WorkflowStep where
  stepType : Option String
  saveAs : Option String
  /-- Absent when the step declares no policies; otherwise sorted by error code. -/
  failurePolicies : Option (List (String × FailurePolicy))
  extra : List (String × Json)
  deriving DecidableEq

/-- A step about which nothing is known. -/
def WorkflowStep.empty : WorkflowStep := ⟨none, none, none, []⟩

/-- The structure of a workflow. -/
structure WorkflowAst where
  name : Option String
  allowedResolvers : List String
  steps : List WorkflowStep
  returnValues : List String
  deriving DecidableEq

namespace WorkflowAst

/-- A workflow about which nothing is known. -/
def empty : WorkflowAst := ⟨none, [], [], []⟩

/-- The step at a position, if the position is one (`WorkflowAst::step`). -/
def step? (ast : WorkflowAst) (position : Int) : Option WorkflowStep :=
  if 0 ≤ position then ast.steps[position.toNat]? else none

end WorkflowAst

/-- A warning of a parser: a text, or an object that may hold a message. -/
inductive ParseWarning where
  | text (message : String)
  | structured (message : Option String) (extra : List (String × Json))
  deriving DecidableEq

namespace ParseWarning

/-- The empty warning, which stands for one that cannot be read. -/
def empty : ParseWarning := .text ""

/-- Message of a warning (`ParseWarning::message`). -/
def message : ParseWarning → String
  | .text message => message
  | .structured message _ => message.getD ""

/-- The warning in the tree of a status, without an absent message (`ParseWarning::to_value`). -/
def tree : ParseWarning → Json
  | .text message => .string message
  | .structured none extra => .object extra
  | .structured (some message) extra =>
    .object (Json.insertEntry "message" (.string message) extra)

end ParseWarning

/-- The status of a parse. -/
structure ParseStatus where
  warnings : List ParseWarning
  extra : List (String × Json)
  deriving DecidableEq

namespace ParseStatus

/-- A status with warnings and nothing else (`with_warnings`). -/
def ofWarnings (warnings : List ParseWarning) : ParseStatus := ⟨warnings, []⟩

/-- The tree that lookups run on (`ParseStatus::to_value`). -/
def tree (s : ParseStatus) : Json :=
  let warnings := Json.array (s.warnings.map ParseWarning.tree)
  .object (Json.insertEntry "warnings" warnings (Json.insertEntry "__warnings" warnings s.extra))

end ParseStatus

/-- What a parser hands back. -/
structure ParseOutput where
  ast : WorkflowAst
  status : ParseStatus
  deriving DecidableEq

end Certification
