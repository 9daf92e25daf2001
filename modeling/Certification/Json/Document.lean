import Certification.Json.Basic

/-!
# JSON documents

What a JSON text holds before it is known whether all of it is wanted. A document keeps repeated
keys and the order of entries, and marks the places where the text stops being JSON (`broken`, or an
array or object that is not `closed`), the tokens that may be passed over but have no value
(`unreadable`: a number out of range, a string with half a surrogate pair), the arrays and objects
that are nested too deeply to be entered (`buried`), and what stands where a key is due but is no
string (`misplaced`). So a decoder that walks a document in order meets a fault exactly where a
reader of the text would.

`Document.toJson?` reads a whole document as a value, `Document.ofJson` is the document of a value,
and `Document.skippable` tells whether a document may be passed over.
-/

namespace Certification

/-- A JSON text as it was met. -/
inductive Document where
  | null
  | bool (b : Bool)
  | number (n : Number)
  | string (s : String)
  | array (items : List Document) (closed : Bool)
  /-- A key is absent when it is a string without a value or no string at all. -/
  | object (entries : List (Option String × Document)) (closed : Bool)
  | unreadable
  | buried (inner : Document)
  | misplaced (found : Document)
  | broken

namespace Document

instance : Inhabited Document := ⟨.null⟩

/-- The greatest number of arrays and objects around a value that a reader enters. -/
def depthLimit : Nat := 127

/-- Marks an array or object that lies at a level below the limit. -/
def placedAt (level : Nat) (d : Document) : Document :=
  if level ≤ depthLimit then d else .buried d

mutual

/-- The document of a value. -/
def ofJson : Json → Document
  | .null => .null
  | .bool b => .bool b
  | .number n => .number n
  | .string s => .string s
  | .array items => .array (ofItems items) true
  | .object entries => .object (ofEntries entries) true

/-- The documents of a list of values. -/
def ofItems : List Json → List Document
  | [] => []
  | j :: js => ofJson j :: ofItems js

/-- The documents of a list of entries. -/
def ofEntries : List (String × Json) → List (Option String × Document)
  | [] => []
  | (k, j) :: rest => (some k, ofJson j) :: ofEntries rest

end

mutual

/-- The value of a document, if all of it can be read. Of entries with one key the last stays. -/
def toJson? : Document → Option Json
  | .null => some .null
  | .bool b => some (.bool b)
  | .number n => some (.number n)
  | .string s => some (.string s)
  | .array items closed => do
    let js ← toItems? items
    if closed then some (.array js) else none
  | .object entries closed => do
    let js ← toEntries? entries
    if closed then some (Json.record js) else none
  | .unreadable | .buried _ | .misplaced _ | .broken => none

/-- The values of a list of documents. -/
def toItems? : List Document → Option (List Json)
  | [] => some []
  | d :: ds => do
    let j ← toJson? d
    let js ← toItems? ds
    some (j :: js)

/-- The entries of a list of documents with keys. -/
def toEntries? : List (Option String × Document) → Option (List (String × Json))
  | [] => some []
  | (key, d) :: rest => do
    let k ← key
    let j ← toJson? d
    let js ← toEntries? rest
    some ((k, j) :: js)

end

mutual

/-- Whether a document may be passed over: nothing in it stops being JSON. -/
def skippable : Document → Bool
  | .null | .bool _ | .number _ | .string _ | .unreadable => true
  | .array items closed => closed && skippableItems items
  | .object entries closed => closed && skippableEntries entries
  | .buried inner => skippable inner
  | .misplaced _ | .broken => false

/-- Whether every document of a list may be passed over. -/
def skippableItems : List Document → Bool
  | [] => true
  | d :: ds => skippable d && skippableItems ds

/-- Whether every document of a list with keys may be passed over. -/
def skippableEntries : List (Option String × Document) → Bool
  | [] => true
  | (_, d) :: rest => skippable d && skippableEntries rest

end

end Document

end Certification
