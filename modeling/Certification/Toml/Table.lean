import Certification.Json.Document

/-!
# Tables in TOML

How the lines of a TOML text make up a table. A line assigns a value to a key, or it is a header
that opens a table or a new element of a list of tables for the lines below it. A key may be a path,
and the tables on the way are made when they are missing; `TableOrigin` remembers how a table came
to be, because that decides what may be added to it: a header opens a table once, and a path of a
key leads into tables that no header has opened.
-/

namespace Certification.Toml

/-- How a table came to be. -/
inductive TableOrigin where
  /-- By a header of its own, or as the whole text. -/
  | stated
  /-- On the way of a header. -/
  | implied
  /-- On the way of a key. -/
  | dotted
  deriving DecidableEq, Repr

/-- What stands under a key. -/
inductive Item where
  | value (d : Document)
  | table (origin : TableOrigin) (entries : List (String × Item))
  /-- A list of tables: all but the last one, and the last one. -/
  | tables (before : List (List (String × Item))) (last : List (String × Item))

/-- A table that is being made. -/
structure Table where
  origin : TableOrigin
  entries : List (String × Item)

/-- A key: the names before the last one, and the last one. -/
structure KeyPath where
  above : List String
  last : String
  deriving DecidableEq, Repr

namespace KeyPath

/-- All names of a key. -/
def toList (key : KeyPath) : List String := key.above ++ [key.last]

/-- Number of names that no key has. -/
def lengthLimit : Nat := 80

/-- The key of some names. -/
def ofList? (names : List String) : Option KeyPath :=
  match names.getLast? with
  | some last => if names.length < lengthLimit then some ⟨names.dropLast, last⟩ else none
  | none => none

end KeyPath

namespace Table

/-- The whole text before its first line, and a table that a header opens. -/
def empty : Table := ⟨.stated, []⟩

/-- The table as what stands under a key. -/
def item (t : Table) : Item := .table t.origin t.entries

/-- What stands under a key of the table. -/
def find? (t : Table) (name : String) : Option Item := t.entries.lookup name

/-- The table with something under a key, in place of what stood there. -/
def set (t : Table) (name : String) (item : Item) : Table :=
  if (t.find? name).isSome then
    { t with entries := t.entries.map fun e ↦ if e.1 = name then (name, item) else e }
  else { t with entries := t.entries ++ [(name, item)] }

/-- Changes the table at the end of a path, by way of a header or of a key. Tables that are missing
on the way are made; the last one stands for a list of tables; a value leads nowhere, and a key
leads into no table that a header has opened. -/
def descend (byKey : Bool) (change : Table → Option Table) : List String → Table → Option Table
  | [], t => change t
  | name :: path, t =>
    match t.find? name with
    | none => do
      let inner ← descend byKey change path ⟨if byKey then .dotted else .implied, []⟩
      some (t.set name inner.item)
    | some (.table origin entries) =>
      if byKey ∧ origin = .stated then none
      else do
        let inner ← descend byKey change path ⟨origin, entries⟩
        some (t.set name inner.item)
    | some (.tables before last) => do
      let inner ← descend byKey change path ⟨.stated, last⟩
      some (t.set name (.tables before inner.entries))
    | some (.value _) => none

/-- Puts something new under a key of the table itself. -/
def insertNew (name : String) (item : Item) (t : Table) : Option Table :=
  if (t.find? name).isSome then none else some (t.set name item)

/-- Assigns a value. A key that is a path ends in a table that such keys have made. -/
def assign (key : KeyPath) (value : Document) (t : Table) : Option Table :=
  t.descend true (fun inner ↦
    if inner.origin = .dotted ↔ key.above = [] then none
    else inner.insertNew key.last (.value value)) key.above

/-- Opens a table. One that was made on the way of a header is opened as it is. -/
def openTable (key : KeyPath) (t : Table) : Option Table :=
  t.descend false (fun parent ↦
    match parent.find? key.last with
    | none => some (parent.set key.last (.table .stated []))
    | some (.table .implied entries) => some (parent.set key.last (.table .stated entries))
    | some _ => none) key.above

/-- Opens a new element at the end of a list of tables. -/
def openElement (key : KeyPath) (t : Table) : Option Table :=
  t.descend false (fun parent ↦
    match parent.find? key.last with
    | none => some (parent.set key.last (.tables [] []))
    | some (.tables before last) => some (parent.set key.last (.tables (before ++ [last]) []))
    | some _ => none) key.above

end Table

/-! ## Documents -/

mutual

/-- What stands under a key, as a document. -/
def Item.document : Item → Document
  | .value d => d
  | .table _ entries => .object (documentEntries entries) true
  | .tables before last =>
    .array (documentElements before ++ [.object (documentEntries last) true]) true

/-- The entries of a table, as entries of a document. -/
def documentEntries : List (String × Item) → List (Option String × Document)
  | [] => []
  | (name, item) :: rest => (some name, item.document) :: documentEntries rest

/-- The elements of a list of tables, as documents. -/
def documentElements : List (List (String × Item)) → List Document
  | [] => []
  | entries :: rest => .object (documentEntries entries) true :: documentElements rest

end

/-- The table as a document. -/
def Table.document (t : Table) : Document := t.item.document

/-! ## Lines -/

/-- A line. -/
inductive Line where
  | assign (key : KeyPath) (value : Document)
  | table (key : KeyPath)
  | element (key : KeyPath)

/-- The table that the lines so far make up, and the path of the one that the last header has
opened. -/
structure Draft where
  root : Table
  current : List String

namespace Draft

/-- Before the first line. -/
def start : Draft := ⟨.empty, []⟩

/-- Adds a line. -/
def add (d : Draft) : Line → Option Draft
  | .assign key value =>
    (d.root.descend false (·.assign key value) d.current).map fun root ↦ { d with root }
  | .table key => (d.root.openTable key).map (⟨·, key.toList⟩)
  | .element key => (d.root.openElement key).map (⟨·, key.toList⟩)

end Draft

/-- The table that lines make up. -/
def Table.ofLines? (lines : List Line) : Option Table :=
  (lines.foldlM Draft.add .start).map (·.root)

end Certification.Toml
