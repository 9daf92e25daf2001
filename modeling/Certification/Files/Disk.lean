import Certification.Files.Error
import Certification.Files.Location
import Certification.Text.Utf8

/-!
# A tree of files

The files and directories below the root, one of them the current directory. A path is walked name
by name, from the current directory or from the root; every name but the last must be a directory,
and so must the last one when a slash follows it. A place is known by the names that lead to it:
from the current directory if it is below, from the root if it is elsewhere. Nothing is said about
who may read or write a file.
-/

namespace Certification

/-- What stands at a place. -/
inductive Node where
  | directory
  | file (content : List UInt8)
  deriving DecidableEq, Repr

/-- A place in a tree of files. -/
inductive Place where
  /-- The current directory, or a place below it. -/
  | inside (names : List String)
  /-- The place to which names lead from the root, neither the current directory nor below it. -/
  | beyond (names : List String)
  deriving DecidableEq, Repr

/-- Names lead from the current directory unless something else is said. -/
instance : Coe (List String) Place := ⟨.inside⟩

/-- Whether a place is another one or above it. -/
def Place.covers : Place → Place → Bool
  | .inside names, .inside others | .beyond names, .beyond others => names.isPrefixOf others
  | _, _ => false

/-- A tree of files. -/
structure Disk where
  /-- Absolute path of the current directory. -/
  here : String
  /-- What stands at the places other than the current directory and those above it. -/
  nodes : List (Place × Node)

namespace Disk

/-- A tree with the current directory and nothing else. -/
def empty (here : String) : Disk := ⟨here, []⟩

/-- The names that lead from the root to the current directory. -/
def hereNames (d : Disk) : List String := Location.names d.here

/-- The root. -/
def top (d : Disk) : Place := if d.hereNames = [] then .inside [] else .beyond []

/-- Whether a place is the current directory or above it. -/
def holdsHere (d : Disk) : Place → Bool
  | .inside names => names.isEmpty
  | .beyond names => names.isPrefixOf d.hereNames

/-- What stands at a place, if anything does. -/
def node? (d : Disk) (place : Place) : Option Node :=
  if d.holdsHere place then some .directory else d.nodes.lookup place

/-- The place above a place; the root is above itself. -/
def up (d : Disk) : Place → Place
  | .inside [] => if d.hereNames = [] then .inside [] else .beyond d.hereNames.dropLast
  | .inside names => .inside names.dropLast
  | .beyond names => .beyond names.dropLast

/-- The place that a name has below a place. -/
def down (d : Disk) (name : String) : Place → Place
  | .inside names => .inside (names ++ [name])
  | .beyond names =>
    if names ++ [name] = d.hereNames then .inside [] else .beyond (names ++ [name])

/-- The place to which a name leads from a directory. -/
def next (d : Disk) (place : Place) (name : String) : Place :=
  if name = "." then place else if name = ".." then d.up place else d.down name place

/-- Greatest size of a name in bytes. -/
def nameLimit : Nat := 255

/-- Size in bytes that no path reaches. -/
def pathLimit : Nat := 4096

/-- The place that a name leads to, whether or not something stands there. -/
def enter (d : Disk) (place : Place) (name : String) : Except FileError Place :=
  match d.node? place with
  | none => .error .notFound
  | some (.file _) => .error .notADirectory
  | some .directory =>
    if nameLimit < name.utf8ByteSize then .error .nameTooLong else .ok (d.next place name)

/-- Walks names from a place. -/
def walk (d : Disk) : Place → List String → Except FileError Place
  | place, [] => .ok place
  | place, name :: names => do
    let next ← d.enter place name
    walk d next names

/-- Where a walk along a path starts, and the names that it takes. -/
def start (d : Disk) (path : String) : Place × List String :=
  (if Location.isAbsolute path then d.top else .inside [], Location.names path)

/-- Refuses a path that names nothing whatever there is on the disk. -/
def validate (path : String) : Except FileError Unit :=
  if path.toList.contains '\x00' then .error .interiorNul
  else if path = "" then .error .notFound
  else if pathLimit ≤ path.utf8ByteSize then .error .nameTooLong
  else .ok ()

/-- The place that a path leads to, and what stands there. -/
def find (d : Disk) (path : String) : Except FileError (Place × Node) := do
  validate path
  let route := d.start path
  let place ← d.walk route.1 route.2
  match d.node? place with
  | none => .error .notFound
  | some (.file content) =>
    if Location.endsWithSlash path then .error .notADirectory else pure (place, .file content)
  | some .directory => pure (place, .directory)

/-- Whether a path leads to something (`exists`). -/
def exists? (d : Disk) (path : String) : Bool := (d.find path).isOk

/-- Whether a path leads to a file (`is_file`). -/
def isFile (d : Disk) (path : String) : Bool :=
  match d.find path with
  | .ok (_, .file _) => true
  | _ => false

/-- Whether a path leads to a directory. -/
def isDirectory (d : Disk) (path : String) : Bool :=
  match d.find path with
  | .ok (_, .directory) => true
  | _ => false

/-- The bytes of the file at a path. -/
def read (d : Disk) (path : String) : Except FileError (List UInt8) := do
  match ← d.find path with
  | (_, .file content) => pure content
  | (_, .directory) => .error .isADirectory

/-- The text of the file at a path (`read_to_string`). -/
def readText (d : Disk) (path : String) : Except FileError String := do
  let bytes ← d.read path
  match Text.Utf8.decode bytes with
  | some text => pure text
  | none => .error .notText

/-! ## Changes -/

/-- The tree with something at a place. -/
def put (d : Disk) (place : Place) (node : Node) : Disk :=
  { d with nodes := (place, node) :: d.nodes.filter (·.1 ≠ place) }

/-- The place at which a path would have something new: the place before the last name, which must
be a directory, and that name. A path without names is the root, at which there is `fault`. -/
def target (d : Disk) (fault : FileError) (path : String) :
    Except FileError (Place × String) := do
  validate path
  let route := d.start path
  match route.2.getLast? with
  | none => .error fault
  | some name =>
    let place ← d.walk route.1 route.2.dropLast
    match d.node? place with
    | none => .error .notFound
    | some (.file _) => .error .notADirectory
    | some .directory => pure (place, name)

/-- Makes a directory. -/
def makeDirectory (d : Disk) (path : String) : Except FileError Disk := do
  let spot ← d.target .alreadyExists path
  if spot.2 = "." ∨ spot.2 = ".." then .error .alreadyExists
  else
    let place ← d.enter spot.1 spot.2
    if (d.node? place).isSome then .error .alreadyExists else pure (d.put place .directory)

/-- Makes the first of some paths a directory, with the others, which lie above it, as far as they
are missing. -/
def makeDirectoriesFrom : List String → Disk → Except FileError Disk
  | [], d => .ok d
  | path :: above, d =>
    if path = "" then .ok d
    else
      match d.makeDirectory path with
      | .ok made => .ok made
      | .error .notFound => do
        let d ← makeDirectoriesFrom above d
        match d.makeDirectory path with
        | .ok made => .ok made
        | .error e => if d.isDirectory path then .ok d else .error e
      | .error e => if d.isDirectory path then .ok d else .error e

/-- Makes a directory and the ones above it that are missing (`create_dir_all`). -/
def makeDirectories (d : Disk) (path : String) : Except FileError Disk :=
  makeDirectoriesFrom (path :: Location.above path) d

/-- Writes a file, in place of the one that may stand there (`fs::write`). -/
def write (d : Disk) (path : String) (content : List UInt8) : Except FileError Disk := do
  let spot ← d.target .isADirectory path
  if Location.endsWithSlash path ∨ spot.2 = "." ∨ spot.2 = ".." then .error .isADirectory
  else
    let place ← d.enter spot.1 spot.2
    match d.node? place with
    | some .directory => .error .isADirectory
    | _ => pure (d.put place (.file content))

/-- Removes what stands at a path, with everything below it; not the current directory. -/
def remove (d : Disk) (path : String) : Except FileError Disk := do
  let found ← d.find path
  if d.holdsHere found.1 then .error .permissionDenied
  else pure { d with nodes := d.nodes.filter fun e ↦ !found.1.covers e.1 }

/-! ## What stands where -/

/-- The current directory and what is above it are directories. -/
theorem node?_of_holdsHere {d : Disk} {place : Place} (h : d.holdsHere place = true) :
    d.node? place = some .directory := by
  rw [node?, if_pos h]

/-- A node that was put at a place is found there, unless the place holds the current directory. -/
theorem node?_put_self {d : Disk} {place : Place} (h : d.holdsHere place = false) (node : Node) :
    (d.put place node).node? place = some node := by
  have hput : (d.put place node).holdsHere place = false := h
  rw [node?, hput]
  simp [put]

/-- What stands at other places does not depend on what is put at a place. -/
theorem node?_put_of_ne {d : Disk} {place other : Place} (h : other ≠ place) (node : Node) :
    (d.put place node).node? other = d.node? other := by
  have hlookup (nodes : List (Place × Node)) :
      (nodes.filter (·.1 ≠ place)).lookup other = nodes.lookup other := by
    induction nodes with
    | nil => rfl
    | cons entry more ih =>
      by_cases hentry : entry.1 = place
      · rw [List.filter_cons_of_neg (by simpa using hentry), ih, List.lookup_cons,
          beq_false_of_ne (hentry ▸ h)]
      · rw [List.filter_cons_of_pos (by simpa using hentry), List.lookup_cons, List.lookup_cons, ih]
  have hput : (d.put place node).holdsHere other = d.holdsHere other := rfl
  rw [node?, node?, hput, put, List.lookup_cons, beq_false_of_ne h]
  exact congrArg _ (hlookup d.nodes)

end Disk

end Certification
