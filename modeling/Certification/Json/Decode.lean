import Certification.Json.Reader
import Certification.Json.Writer
import Certification.Text.Quoted

/-!
# Decoding JSON

How typed data is read out of a document. A decoder either yields its data or the first cause, in
document order, for which the document is not of the expected form; `DecodeError.message` words the
causes. Decoding depends in two corners on where the document comes from, so decoders take an
`Origin`: a text that is being read, a value that was read before, the buffered part of a value that
is decoded for the second time, or a text of another format.
-/

namespace Certification

/-- Where a document comes from. -/
inductive Origin where
  /-- A text that is decoded while it is read. -/
  | text
  /-- A value. -/
  | value
  /-- The fields of a value that were set aside and are decoded later. -/
  | buffered
  /-- A text of another format, in which an array may be longer than the record it is read as. -/
  | foreign
  deriving DecidableEq, Repr

/-- What stood where something else was expected. -/
inductive Found where
  | null
  | boolean (b : Bool)
  | integer (i : Int)
  | floating (x : Binary64)
  | string (s : String)
  | sequence
  | map
  /-- The name of a variant that lacks its content. -/
  | bareVariant
  deriving DecidableEq

/-- Words for what stood there. -/
def Found.describe : Found → String
  | .null => "null"
  | .boolean true => "boolean `true`"
  | .boolean false => "boolean `false`"
  | .integer i => "integer `" ++ toString i ++ "`"
  | .floating x => "floating point `" ++ String.ofList x.write ++ "`"
  | .string s => "string " ++ Text.quoted s
  | .sequence => "sequence"
  | .map => "map"
  | .bareVariant => "unit variant"

/-- Why a document does not decode. -/
inductive DecodeError where
  /-- The text is not JSON at the place where it is needed. -/
  | notJson
  | missingField (name : String)
  | duplicateField (name : String)
  | unknownField (name : String) (known : List String)
  | unknownVariant (name : String) (known : List String)
  | invalidType (found : Found) (expected : String)
  | invalidValue (found : Found) (expected : String)
  | invalidLength (length : Nat) (expected : String)
  /-- A duration whose nanoseconds carry past the last second. -/
  | durationOverflow
  /-- A time stamp that ends too early. -/
  | timeTooShort
  /-- A time stamp with something after its end. -/
  | timeTooLong
  /-- A time stamp with a part that is out of range. -/
  | timeOutOfRange
  /-- A time stamp with a character in the wrong place. -/
  | timeInvalid
  /-- A time stamp whose moment in universal time lies outside of the calendar. -/
  | timeImpossible
  deriving DecidableEq

namespace DecodeError

/-- A name between backquotes. -/
def ticked (name : String) : String := "`" ++ name ++ "`"

/-- The known names of a choice. -/
def oneOf : List String → String
  | [] => "there are no variants"
  | [a] => "expected " ++ ticked a
  | [a, b] => "expected " ++ ticked a ++ " or " ++ ticked b
  | names => "expected one of " ++ String.intercalate ", " (names.map ticked)

/-- The wording of a cause. -/
def message : DecodeError → String
  | .notJson => "invalid JSON"
  | .missingField name => "missing field " ++ ticked name
  | .duplicateField name => "duplicate field " ++ ticked name
  | .unknownField name known => "unknown field " ++ ticked name ++ ", " ++ oneOf known
  | .unknownVariant name known => "unknown variant " ++ ticked name ++ ", " ++ oneOf known
  | .invalidType found expected => "invalid type: " ++ found.describe ++ ", expected " ++ expected
  | .invalidValue found expected =>
    "invalid value: " ++ found.describe ++ ", expected " ++ expected
  | .invalidLength length expected =>
    "invalid length " ++ toString length ++ ", expected " ++ expected
  | .durationOverflow => "overflow deserializing Duration"
  | .timeTooShort => "premature end of input"
  | .timeTooLong => "trailing input"
  | .timeOutOfRange => "input is out of range"
  | .timeInvalid => "input contains invalid characters"
  | .timeImpossible => "no possible date and time matching input"

end DecodeError

/-- Reads data out of a document. -/
abbrev Decoder (α : Type) := Origin → Document → Except DecodeError α

namespace Decoder

/-- What stands at a document, when it is a value at all. -/
def found? : Document → Option Found
  | .null => some .null
  | .bool b => some (.boolean b)
  | .number n =>
    match n, n.toInt? with
    | .double x, _ => some (.floating x)
    | _, some i => some (.integer i)
    | _, none => none
  | .string s => some (.string s)
  | .array _ _ => some .sequence
  | .object _ _ => some .map
  | .buried inner => found? inner
  | .unreadable | .misplaced _ | .broken => none

/-- Refuses a document of the wrong type. -/
def mismatch {α : Type} (expected : String) (d : Document) : Except DecodeError α :=
  match found? d with
  | some found => .error (.invalidType found expected)
  | none => .error .notJson

/-- A refusal is never a success. -/
theorem mismatch_ne_ok {α : Type} (expected : String) (d : Document) (a : α) :
    mismatch expected d ≠ .ok a := by
  unfold mismatch
  split <;> simp

/-- Any value. -/
def json : Decoder Json := fun _ d ↦
  match d.toJson? with
  | some j => .ok j
  | none => .error .notJson

/-- A string. -/
def string : Decoder String := fun _ d ↦
  match d with
  | .string s => .ok s
  | d => mismatch "a string" d

/-- A boolean. -/
def bool : Decoder Bool := fun _ d ↦
  match d with
  | .bool b => .ok b
  | d => mismatch "a boolean" d

/-- Nothing but null. -/
def unit : Decoder Unit := fun origin d ↦
  match origin, d with
  | _, .null => .ok ()
  | .buffered, .object [] _ => .ok ()
  | _, d => mismatch "unit" d

/-- An integer between two bounds; `expected` names the range. -/
def integer (low high : Int) (expected : String) : Decoder Int := fun _ d ↦
  match d with
  | .number n =>
    match n.toInt? with
    | some i =>
      if low ≤ i ∧ i ≤ high then .ok i else .error (.invalidValue (.integer i) expected)
    | none => mismatch expected d
  | d => mismatch expected d

/-- A natural number of 64 bits that counts or addresses something. -/
def size : Decoder Nat := fun origin d ↦
  (integer 0 (2 ^ 64 - 1) "usize" origin d).map Int.toNat

/-- A natural number of 64 bits. -/
def nat64 : Decoder Nat := fun origin d ↦
  (integer 0 (2 ^ 64 - 1) "u64" origin d).map Int.toNat

/-- A natural number of 32 bits. -/
def nat32 : Decoder Nat := fun origin d ↦
  (integer 0 (2 ^ 32 - 1) "u32" origin d).map Int.toNat

/-- An integer of 64 bits. -/
def int64 : Decoder Int := integer (-2 ^ 63) (2 ^ 63 - 1) "i64"

/-- An optional value, absent when null stands there. -/
def optional {α : Type} (decode : Decoder α) : Decoder (Option α) := fun origin d ↦
  match d with
  | .null => .ok none
  | d => (decode origin d).map some

/-- Decodes items one after the other. -/
def items {α : Type} (decode : Decoder α) (origin : Origin) :
    List Document → Except DecodeError (List α)
  | [] => .ok []
  | d :: ds => do
    let a ← decode origin d
    let as ← items decode origin ds
    pure (a :: as)

/-- A sequence. -/
def list {α : Type} (decode : Decoder α) : Decoder (List α) := fun origin d ↦
  match d with
  | .array ds closed => do
    let as ← items decode origin ds
    if closed then pure as else .error .notJson
  | .buried (.array _ _) => .error .notJson
  | d => mismatch "a sequence" d

/-- Finds a variant by its name. -/
def variant {α : Type} (names : List (String × α)) (known : List String) (name : String) :
    Except DecodeError α :=
  match names.lookup name with
  | some a => .ok a
  | none => .error (.unknownVariant name known)

/-- A choice written as a name alone or as an object with the name as its one key: `bare` reads a
name alone, and `content` gives the decoder of what stands under a key. -/
def tagged {α : Type} (bare : String → Except DecodeError α)
    (content : String → Except DecodeError (Decoder α)) : Decoder α := fun origin d ↦
  match d with
  | .string s => bare s
  | .object entries closed =>
    match origin, entries with
    | .text, (some key, inner) :: more => do
      let decode ← content key
      let a ← decode origin inner
      if closed && more.isEmpty then pure a else .error .notJson
    | .text, (none, .misplaced found) :: _ => mismatch "variant identifier" found
    | .text, _ => .error .notJson
    | _, [(some key, inner)] => do
      let decode ← content key
      decode origin inner
    | _, _ => .error (.invalidValue .map "map with a single key")
  | d =>
    match origin with
    | .text => .error .notJson
    | _ => mismatch "string or map" d

/-- A choice of a name, written as nothing but the name. -/
def bareChoice {α : Type} (names : List (String × α)) (known : List String) : Decoder α :=
  fun _ d ↦
    match d with
    | .string s => variant names known s
    | .buried (.object _ _) | .buried (.array _ _) => .error .notJson
    | d => mismatch "variant identifier" d

/-- Nothing but null, which stands for a given value. -/
def unitAs {α : Type} (a : α) : Decoder α := fun origin d ↦ (unit origin d).map fun _ ↦ a

/-- A choice between names, also written as an object with the name as its one key and null as its
value. `names` gives every spelling, `known` the spellings that a refusal lists. -/
def choice {α : Type} (names : List (String × α)) (known : List String) : Decoder α :=
  tagged (variant names known) fun key ↦ (variant names known key).map unitAs

/-! ## Entry points -/

/-- Decodes a value (`from_value`). -/
def ofJson {α : Type} (decode : Decoder α) (j : Json) : Except DecodeError α :=
  decode .value (.ofJson j)

/-- Decodes a text; what follows the decoded part must be separators. -/
def ofReading {α : Type} (decode : Decoder α) (r : Reading) : Except DecodeError α := do
  let a ← decode .text r.document
  if r.ended then pure a else .error .notJson

/-- Decodes a text (`from_str`). -/
def ofText {α : Type} (decode : Decoder α) (s : String) : Except DecodeError α :=
  ofReading decode (.ofText s)

/-- Decodes bytes (`from_slice`). -/
def ofBytes {α : Type} (decode : Decoder α) (bytes : List UInt8) : Except DecodeError α :=
  ofReading decode (.ofBytes bytes)

end Decoder

end Certification
