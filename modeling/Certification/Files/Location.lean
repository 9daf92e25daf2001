/-!
# Paths of files

The text of a path: names with slashes between them, absolute when a slash stands first. Paths are
kept as they were written; the functions here join them and take them apart.
-/

namespace Certification

namespace Location

/-- Pieces of a text between slashes. -/
def pieces : List Char → List (List Char)
  | [] => [[]]
  | c :: cs =>
    if c = '/' then [] :: pieces cs
    else match pieces cs with
      | [] => [[c]]
      | piece :: rest => (c :: piece) :: rest

/-- Names on a path, those of the current and the parent directory included. -/
def names (path : String) : List String :=
  (pieces path.toList).filterMap fun piece ↦
    if piece.isEmpty then none else some (String.ofList piece)

/-- Whether a path starts at the root (`is_absolute`). -/
def isAbsolute (path : String) : Bool := path.toList.head? == some '/'

/-- Whether a slash ends a path. -/
def endsWithSlash (path : String) : Bool := path.toList.getLast? == some '/'

/-- One path below another; an absolute one replaces it (`Path::join`). -/
def join (base path : String) : String :=
  if isAbsolute path then path
  else if base = "" ∨ endsWithSlash base then base ++ path
  else base ++ "/" ++ path

/-- The names of a path that lead somewhere: a mark of the current directory counts only as the
first one of a relative path. -/
def steps (path : String) : List String :=
  match names path with
  | [] => []
  | first :: rest =>
    let rest := rest.filter (· ≠ ".")
    if first = "." ∧ isAbsolute path then rest else first :: rest

/-- The path with some steps. -/
def ofSteps (absolute : Bool) (steps : List String) : String :=
  (if absolute then "/" else "") ++ "/".intercalate steps

/-- The paths above a path, the nearest first, and the empty path or the root last. -/
def above (path : String) : List String :=
  let steps := steps path
  (List.range steps.length).reverse.map fun n ↦ ofSteps (isAbsolute path) (steps.take n)

/-- The path of the directory that holds the last step (`Path::parent`). -/
def parent? (path : String) : Option String := (above path).head?

/-- Name of a file without its last extension. A name that starts with a point and has no other
one is kept, and so is the mark of the parent directory. -/
def stemOf (name : String) : String :=
  let reversed := name.toList.reverse
  let before := (reversed.dropWhile (· ≠ '.')).drop 1
  if name = ".." || before.isEmpty then name else String.ofList before.reverse

/-- Name of the file at a path without its last extension; nothing when the path ends in no name
(`file_stem`). -/
def stem? (path : String) : Option String :=
  match (steps path).getLast? with
  | none => none
  | some name => if name = ".." ∨ name = "." then none else some (stemOf name)

end Location

end Certification
