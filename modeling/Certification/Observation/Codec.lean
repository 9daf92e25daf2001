import Certification.Observation.Basic

/-!
# Retry evidence in data

Retry evidence is a record of its source and its count. The source may stand after the count, so the
count is looked at once the source is known. It is also read from an array of the two, where the
source is a name and nothing else.
-/

namespace Certification

namespace RetryEvidence

/-- The names of the sources, each with what it makes of a count. -/
def sources : List (String × (Nat → RetryEvidence)) :=
  [("reported", .reported), ("inferred_from_declaration", .inferred)]

/-- Name of the source. -/
def source : RetryEvidence → String
  | .reported _ => "reported"
  | .inferred _ => "inferred_from_declaration"

/-- Reads a source under its key. -/
def decodeSource : Decoder (Nat → RetryEvidence) :=
  Decoder.choice sources (sources.map Prod.fst)

/-- Reads a source at the head of an array. -/
def decodeHead : Decoder (Nat → RetryEvidence) :=
  Decoder.bareChoice sources (sources.map Prod.fst)

/-- How retry evidence is named where it was expected. -/
def expected : String := "adjacently tagged enum RetryEvidence"

/-- Walks entries in order: the source, and the document of the count. -/
def gather (origin : Origin) : Option (Nat → RetryEvidence) → Option Document →
    List (Option String × Document) →
      Except DecodeError (Option (Nat → RetryEvidence) × Option Document)
  | source, count, [] => .ok (source, count)
  | _, _, (none, _) :: _ => .error .notJson
  | source, count, (some key, d) :: rest =>
    if key = "source" then
      if source.isSome then .error (.duplicateField "source")
      else do
        let found ← decodeSource origin d
        gather origin (some found) count rest
    else if key = "count" then
      if count.isSome then .error (.duplicateField "count")
      else if source.isSome then do
        let _ ← Decoder.nat32 origin d
        gather origin source (some d) rest
      else if d.toJson?.isSome then gather origin source (some d) rest
      else .error .notJson
    else if d.skippable then gather origin source count rest
    else .error .notJson

/-- Reads retry evidence. -/
def decode : Decoder RetryEvidence := fun origin d ↦
  match d with
  | .object entries closed => do
    let r ← gather origin none none entries
    if !closed then .error .notJson
    else
      match r with
      | (none, _) => .error (.missingField "source")
      | (_, none) => .error (.missingField "count")
      | (some source, some count) => source <$> Decoder.nat32 origin count
  | .array items closed =>
    match items with
    | [] => if closed then .error (.invalidLength 0 expected) else .error .notJson
    | [source] => do
      let _ ← decodeHead origin source
      if closed then .error (.invalidLength 1 expected) else .error .notJson
    | source :: count :: more => do
      let source ← decodeHead origin source
      let count ← Decoder.nat32 origin count
      if !closed then .error .notJson
      else
        match Shape.excess? origin 2 more.length with
        | some cause => .error cause
        | none => pure (source count)
  | .buried (.object _ _) | .buried (.array _ _) => .error .notJson
  | d => Decoder.mismatch expected d

/-- Retry evidence in data. -/
def toJson (e : RetryEvidence) : Json :=
  .record [("source", .string e.source), ("count", .ofNat e.count)]

end RetryEvidence

end Certification
