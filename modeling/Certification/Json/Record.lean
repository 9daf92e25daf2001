import Certification.Json.Decode

/-!
# Decoding records

A record is read from an object, by the names of its fields, or from an array, by their order. A
`Shape` names a record and its fields with the spellings and the type of each. `Shape.gather` walks
a document in order and keeps, for every field that is present, the document that stands there; it
refuses a field that is met twice and a field of the wrong type at the place where it stands, and
passes over entries with other names. Missing fields are noticed afterwards, when `Fields.required`
asks for one, in the order in which a decoder asks.
-/

namespace Certification

/-- A field of a record: its name, its other spellings, and the check of its type. -/
structure Field where
  name : String
  aliases : List String
  check : Origin → Document → Except DecodeError Unit

namespace Field

/-- The field that is decoded by a decoder. -/
def of {α : Type} (name : String) (decode : Decoder α) (aliases : List String) : Field :=
  ⟨name, aliases, fun origin d ↦ (decode origin d).map fun _ ↦ ()⟩

/-- Whether a key spells the field. -/
def answersTo (f : Field) (key : String) : Bool := f.name == key || f.aliases.contains key

end Field

/-- The name of a record and its fields in order. -/
structure Shape where
  name : String
  fields : List Field

/-- The fields of a record that were present, and how a missing one is reported. -/
structure Fields where
  present : List (String × Document)
  missing : String → DecodeError

namespace Shape

/-- How the shape is named where it was expected. -/
def expected (s : Shape) : String := "struct " ++ s.name

/-- How the shape is named where an array is too short for it. -/
def expectedLength (s : Shape) : String :=
  s.expected ++ " with " ++ toString s.fields.length ++
    (if s.fields.length = 1 then " element" else " elements")

/-- Gathers fields from the entries of an object, in document order. -/
def gatherEntries (fields : List Field) (origin : Origin) :
    List (String × Document) → List (Option String × Document) →
      Except DecodeError (List (String × Document))
  | present, [] => .ok present
  | _, (none, _) :: _ => .error .notJson
  | present, (some key, d) :: rest =>
    match fields.find? (·.answersTo key) with
    | none => if d.skippable then gatherEntries fields origin present rest else .error .notJson
    | some field =>
      if (present.lookup field.name).isSome then .error (.duplicateField field.name)
      else do
        field.check origin d
        gatherEntries fields origin (present ++ [(field.name, d)]) rest

/-- Gathers fields from the items of an array, in order: the fields, and how many items are left
over. -/
def gatherItems (origin : Origin) :
    List Field → List Document → Except DecodeError (List (String × Document) × Nat)
  | _, [] => .ok ([], 0)
  | [], ds => .ok ([], ds.length)
  | field :: fields, d :: ds => do
    field.check origin d
    let rest ← gatherItems origin fields ds
    pure ((field.name, d) :: rest.1, rest.2)

/-- How items are reported that are left over when an array is read as a record of so many fields,
if there are any and they are not let pass. -/
def excess? (origin : Origin) (count surplus : Nat) : Option DecodeError :=
  if surplus = 0 then none
  else
    match origin with
    | .text => some .notJson
    | .value => some (.invalidLength (count + surplus) "fewer elements in array")
    | .buffered =>
      some (.invalidLength (count + surplus)
        (toString count ++ if count = 1 then " element in sequence" else " elements in sequence"))
    | .foreign => none

/-- Gathers the fields of a record from a document. -/
def gather (s : Shape) (origin : Origin) (d : Document) : Except DecodeError Fields :=
  match d with
  | .object entries closed => do
    let present ← gatherEntries s.fields origin [] entries
    if closed then pure ⟨present, .missingField⟩ else .error .notJson
  | .array ds closed => do
    let r ← gatherItems origin s.fields ds
    if !closed then .error .notJson
    else
      match excess? origin s.fields.length r.2 with
      | some cause => .error cause
      | none =>
        pure ⟨r.1, fun name ↦
          .invalidLength ((s.fields.findIdx? (·.name == name)).getD 0) s.expectedLength⟩
  | .buried (.object _ _) | .buried (.array _ _) => .error .notJson
  | d => Decoder.mismatch s.expected d

end Shape

namespace Fields

/-- A field that must be present. -/
def required {α : Type} (fs : Fields) (origin : Origin) (name : String) (decode : Decoder α) :
    Except DecodeError α :=
  match fs.present.lookup name with
  | some d => decode origin d
  | none => .error (fs.missing name)

/-- A field that has a default. -/
def withDefault {α : Type} (fs : Fields) (origin : Origin) (name : String) (default : α)
    (decode : Decoder α) : Except DecodeError α :=
  match fs.present.lookup name with
  | some d => decode origin d
  | none => .ok default

/-- A field that may be absent or null. -/
def optional {α : Type} (fs : Fields) (origin : Origin) (name : String) (decode : Decoder α) :
    Except DecodeError (Option α) :=
  fs.withDefault origin name none (Decoder.optional decode)

end Fields

namespace Field

/-- The field of an optional value. -/
def optional {α : Type} (name : String) (decode : Decoder α) (aliases : List String) : Field :=
  of name (Decoder.optional decode) aliases

end Field

/-- Entries of an object for its fields: the present ones. -/
def presentEntries (entries : List (String × Option Json)) : List (String × Json) :=
  entries.filterMap fun e ↦ e.2.map (e.1, ·)

end Certification
