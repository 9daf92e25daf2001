import Certification.Time.Duration
import Certification.Verdict

/-!
# Outcomes of suites

How the run of one suite ends: it is evaluated and passes or fails, it cannot be loaded, something
panics in it, or it is not run at all. `SuiteOutcome.decode` reads an outcome from a flat record, in
which the entry `outcome` says which of the other entries have a meaning.
-/

namespace Certification

namespace TargetShape

/-- Reads a shape. -/
def decode : Decoder TargetShape :=
  Decoder.choice (all.map fun shape ↦ (shape.name, shape)) (all.map name)

end TargetShape

/-- How a suite ends. -/
inductive SuiteStatus where
  | passed
  /-- It was evaluated, and an assertion does not hold. -/
  | failed (verdict : Verdict)
  /-- Its specification or what it examines could not be loaded. -/
  | loadFailed (reason : String)
  /-- Something panicked. -/
  | crashed (reason : String)
  /-- It was not run, since a suite before it failed. -/
  | skipped
  deriving DecidableEq, Repr

namespace SuiteStatus

/-- Name of a status. -/
def name : SuiteStatus → String
  | .passed => "passed"
  | .failed _ => "failed"
  | .loadFailed _ => "load_failed"
  | .crashed _ => "crashed"
  | .skipped => "skipped"

/-- Whether the suite passed (`SuiteStatus::is_passed`). -/
def isPassed : SuiteStatus → Bool
  | .passed => true
  | _ => false

/-- Whether the suite counts against certification (`SuiteStatus::is_failed`). -/
def isFailed : SuiteStatus → Bool
  | .failed _ | .loadFailed _ | .crashed _ => true
  | .passed | .skipped => false

/-- Whether the suite was not run. -/
def isSkipped : SuiteStatus → Bool
  | .skipped => true
  | _ => false

/-- Entries of the status in data, in the order in which they are printed. -/
def entries (s : SuiteStatus) : List (String × Json) :=
  ("outcome", .string s.name) ::
    match s with
    | .failed verdict => [("verdict", .object verdict.entries)]
    | .loadFailed reason | .crashed reason => [("reason", .string reason)]
    | .passed | .skipped => []

end SuiteStatus

/-- How the run of a suite ended. -/
structure SuiteOutcome where
  suite : String
  testId : Option String
  target : Option TargetShape
  status : SuiteStatus
  duration : Duration
  deriving DecidableEq

namespace SuiteOutcome

/-- The outcome of a suite that is not run (`SuiteOutcome::skipped`). -/
def skipped (suite : String) : SuiteOutcome := ⟨suite, none, none, .skipped, .zero⟩

/-- Why the suite did not pass, in one line (`SuiteOutcome::reason`). -/
def reason? (o : SuiteOutcome) : Option String :=
  match o.status with
  | .failed verdict => some verdict.message
  | .loadFailed reason | .crashed reason => some reason
  | .passed | .skipped => none

/-- Entries of the outcome in data without its duration, in the order in which they are printed. -/
def entriesUntimed (o : SuiteOutcome) : List (String × Json) :=
  presentEntries
    [("suite", some (.string o.suite)), ("test_id", o.testId.map .string),
     ("target", o.target.map fun shape ↦ .string shape.name)] ++ o.status.entries

/-- Entries of the outcome in data, in the order in which they are printed. -/
def entries (o : SuiteOutcome) : List (String × Json) :=
  o.entriesUntimed ++ [("duration", .object o.duration.entries)]

end SuiteOutcome

/-! ## Reading -/

namespace SuiteStatus

/-- The names of the statuses. -/
def names : List String := ["passed", "failed", "load_failed", "crashed", "skipped"]

/-- Reads the name of a status, or its position among the names. -/
def decodeName (d : Document) : Except DecodeError String :=
  match d with
  | .string name =>
    if names.contains name then .ok name else .error (.unknownVariant name names)
  | .number (.natural n) =>
    match names[n.val]? with
    | some name => .ok name
    | none => .error (.invalidValue (.integer n.val) "variant index 0 <= i < 5")
  | d => Decoder.mismatch "variant identifier" d

/-- Decodes the one entry with a key. -/
def content {α : Type} (key : String) (decode : Decoder α) (entries : List (String × Document)) :
    Except DecodeError α :=
  match entries.filter (·.1 = key) with
  | [] => .error (.missingField key)
  | e :: more => do
    let a ← decode .buffered e.2
    if more.isEmpty then pure a else .error (.duplicateField key)

/-- Reads a status from entries that were set aside. -/
def ofEntries (entries : List (String × Document)) : Except DecodeError SuiteStatus := do
  let tags := entries.filter (·.1 = "outcome")
  match tags with
  | [] => .error (.missingField "outcome")
  | tag :: more =>
    let name ← decodeName tag.2
    if !more.isEmpty then .error (.duplicateField "outcome")
    else if name = "passed" then pure .passed
    else if name = "failed" then .failed <$> content "verdict" Verdict.decode entries
    else if name = "load_failed" then .loadFailed <$> content "reason" Decoder.string entries
    else if name = "crashed" then .crashed <$> content "reason" Decoder.string entries
    else pure .skipped

end SuiteStatus

namespace SuiteOutcome

/-- The fields of an outcome that are read where they stand. -/
def fields : List Field :=
  [.of "suite" Decoder.string [], .optional "test_id" Decoder.string [],
   .optional "target" TargetShape.decode [], .of "duration" Duration.decode []]

/-- Walks entries in order: the fields that are read where they stand, and the other entries, which
are set aside. -/
def gather (origin : Origin) : List (String × Document) → List (String × Document) →
    List (Option String × Document) →
      Except DecodeError (List (String × Document) × List (String × Document))
  | present, others, [] => .ok (present, others)
  | _, _, (none, _) :: _ => .error .notJson
  | present, others, (some key, d) :: rest =>
    match fields.find? (·.answersTo key) with
    | some field =>
      if (present.lookup key).isSome then .error (.duplicateField key)
      else do
        field.check origin d
        gather origin (present ++ [(key, d)]) others rest
    | none =>
      if d.toJson?.isSome then gather origin present (others ++ [(key, d)]) rest
      else .error .notJson

/-- How an outcome is named where it was expected. -/
def expected : String := "struct SuiteOutcome"

/-- Reads an outcome. -/
def decode : Decoder SuiteOutcome := fun origin d ↦
  match d with
  | .object entries closed => do
    let r ← gather origin [] [] entries
    if !closed then .error .notJson
    else
      let fields : Fields := ⟨r.1, .missingField⟩
      let suite ← fields.required origin "suite" Decoder.string
      let testId ← fields.optional origin "test_id" Decoder.string
      let target ← fields.optional origin "target" TargetShape.decode
      let duration ← fields.required origin "duration" Duration.decode
      let status ← SuiteStatus.ofEntries r.2
      pure ⟨suite, testId, target, status, duration⟩
  | .buried (.object _ _) => .error .notJson
  | d => Decoder.mismatch expected d

end SuiteOutcome

end Certification
