import Certification.Json.Record
import Certification.Workflow.Basic

/-!
# Parser output in data

Reading and writing what a parser prints. Reading is lenient: a field that is null or of the wrong
type reads as if it were absent, a policy map or an array of names as a whole (`lenient`), steps and
warnings one by one so that positions are kept (`lenient_seq`). Only the outermost value must be an
object, and a field must not stand in it twice.
-/

namespace Certification

/-! ## Reading -/

namespace FailurePolicy

/-- Reads a policy from an object, or from an array of its two fields. -/
def ofJson? : Json → Option FailurePolicy
  | .object entries =>
    some ⟨(entries.lookup "action").bind Json.string?, (entries.lookup "count").bind Json.nat?⟩
  | .array items =>
    if items.length ≤ 2 then
      some ⟨items[0]?.bind Json.string?, items[1]?.bind Json.nat?⟩
    else none
  | _ => none

end FailurePolicy

namespace WorkflowStep

/-- Reads the entries of a map, all of them or none. -/
def policies? (entries : List (String × Json)) : Option (List (String × FailurePolicy)) :=
  entries.mapM fun entry ↦ (FailurePolicy.ofJson? entry.2).map (entry.1, ·)

/-- Names of the fields that have a meaning. -/
def knownFields : List String := ["type", "saveAs", "failurePolicies"]

/-- Reads a step from the entries of an object, each field for itself (`lenient`). -/
def ofEntries (entries : List (String × Json)) : WorkflowStep where
  stepType := (entries.lookup "type").bind Json.string?
  saveAs := (entries.lookup "saveAs").bind Json.string?
  failurePolicies := ((entries.lookup "failurePolicies").bind Json.object?).bind policies?
  extra := entries.filter fun entry ↦ !knownFields.contains entry.1

/-- Reads a step; what is not an object is a step about which nothing is known (`lenient_seq`). -/
def ofJson : Json → WorkflowStep
  | .object entries => ofEntries entries
  | _ => .empty

end WorkflowStep

namespace WorkflowAst

/-- Reads an array of strings (`lenient`). -/
def strings (j : Option Json) : List String :=
  ((j.bind Json.array?).bind (·.mapM Json.string?)).getD []

/-- Reads an array of steps (`lenient_seq`). -/
def stepsOf (j : Option Json) : List WorkflowStep :=
  ((j.bind Json.array?).getD []).map WorkflowStep.ofJson

/-- Reads a workflow from its fields. -/
def ofFields (name allowedResolvers steps returnValues : Option Json) : WorkflowAst where
  name := name.bind Json.string?
  allowedResolvers := strings allowedResolvers
  steps := stepsOf steps
  returnValues := strings returnValues

/-- Reads a workflow from an object, or from an array of its fields in order. -/
def ofJson : Json → WorkflowAst
  | .object entries =>
    ofFields (entries.lookup "name") (entries.lookup "allowedResolvers")
      (entries.lookup "steps") (entries.lookup "returnValues")
  | .array items =>
    if items.length ≤ 4 then ofFields items[0]? items[1]? items[2]? items[3]? else .empty
  | _ => .empty

end WorkflowAst

namespace ParseWarning

/-- Reads a warning; what is neither a text nor an object with a readable message is the empty
one. -/
def ofJson : Json → ParseWarning
  | .string message => .text message
  | .object entries =>
    let extra := Json.eraseEntry "message" entries
    match entries.lookup "message" with
    | none | some .null => .structured none extra
    | some (.string message) => .structured (some message) extra
    | some _ => .empty
  | _ => .empty

end ParseWarning

namespace ParseStatus

/-- The two names of the warnings. -/
def warningNames : List String := ["warnings", "__warnings"]

/-- Whether an entry holds the warnings. -/
def isWarnings (entry : String × Json) : Bool := warningNames.contains entry.1

/-- Reads an array of warnings (`lenient_seq`). -/
def warningsOf : Json → List ParseWarning
  | .array items => items.map ParseWarning.ofJson
  | _ => []

/-- Reads a status from entries in the order they were met. The warnings may stand there once,
under either name. -/
def ofEntries (entries : List (String × Json)) : Except DecodeError ParseStatus :=
  let extra := Json.sortEntries (entries.filter fun entry ↦ !isWarnings entry)
  match entries.filter isWarnings with
  | [] => .ok ⟨[], extra⟩
  | [entry] => .ok ⟨warningsOf entry.2, extra⟩
  | _ => .error (.duplicateField "warnings")

end ParseStatus

namespace ParseOutput

/-- Name of the output where it was expected. -/
def expected : String := "struct ParseOutput"

/-- Walks the entries of an object in order: the value of `ast`, which may stand there once, and
the other entries. -/
def gather : Option Json → List (String × Json) → List (Option String × Document) →
    Except DecodeError (Option Json × List (String × Json))
  | ast, others, [] => .ok (ast, others)
  | _, _, (none, _) :: _ => .error .notJson
  | ast, others, (some key, d) :: rest =>
    if key = "ast" ∧ ast.isSome then .error (.duplicateField "ast")
    else
      match d.toJson? with
      | none => .error .notJson
      | some j =>
        if key = "ast" then gather (some j) others rest
        else gather ast (others ++ [(key, j)]) rest

/-- Reads what a parser printed. -/
def decode : Decoder ParseOutput := fun _ d ↦
  match d with
  | .object entries closed => do
    let r ← gather none [] entries
    if closed then
      let status ← ParseStatus.ofEntries r.2
      pure ⟨(r.1.map WorkflowAst.ofJson).getD .empty, status⟩
    else .error .notJson
  | .buried (.object _ _) => .error .notJson
  | d => Decoder.mismatch expected d

end ParseOutput

/-! ## Writing -/

namespace FailurePolicy

/-- The policy in data. -/
def toJson (p : FailurePolicy) : Json :=
  .record [("action", .ofOption .string p.action), ("count", .ofOption .ofNat p.count)]

end FailurePolicy

namespace WorkflowStep

/-- The step in data, with its extra fields. -/
def toJson (s : WorkflowStep) : Json :=
  let policies (entries : List (String × FailurePolicy)) : Json :=
    .object (entries.map fun entry ↦ (entry.1, entry.2.toJson))
  .record
    ([("type", .ofOption .string s.stepType), ("saveAs", .ofOption .string s.saveAs),
      ("failurePolicies", .ofOption policies s.failurePolicies)] ++ s.extra)

end WorkflowStep

namespace WorkflowAst

/-- The workflow in data. -/
def toJson (ast : WorkflowAst) : Json :=
  .record
    [("name", .ofOption .string ast.name),
     ("allowedResolvers", .ofStrings ast.allowedResolvers),
     ("steps", .array (ast.steps.map WorkflowStep.toJson)),
     ("returnValues", .ofStrings ast.returnValues)]

end WorkflowAst

namespace ParseWarning

/-- The warning in data, an absent message as null. -/
def toJson : ParseWarning → Json
  | .text message => .string message
  | .structured message extra => .record (("message", .ofOption .string message) :: extra)

end ParseWarning

namespace ParseStatus

/-- Entries of the status in data. -/
def entries (s : ParseStatus) : List (String × Json) :=
  ("warnings", .array (s.warnings.map ParseWarning.toJson)) :: s.extra

/-- The status in data. -/
def toJson (s : ParseStatus) : Json := .record s.entries

end ParseStatus

namespace ParseOutput

/-- The output in data. -/
def toJson (o : ParseOutput) : Json := .record (("ast", o.ast.toJson) :: o.status.entries)

end ParseOutput

end Certification
