import Certification.Toml.Quoted
import Certification.Toml.Scalar
import Certification.Toml.Table

/-!
# Reading TOML

From characters to a document. The text is read line by line; a line holds an assignment, a header
or nothing, and may end in a comment. Inside brackets a value may reach over several lines, inside
braces it may not. Keys are words, or quoted, with points between them.

Arrays and tables in braces may lie inside each other up to a limit. `document?` gives nothing for a
text that is not TOML.
-/

namespace Certification.Toml

/-! ## Between values -/

/-- Passes over blanks. -/
def skipGaps (cs : List Char) : List Char := cs.dropWhile isGap

/-- Passes over blanks, line ends and comments; a comment must end with its line. -/
def skipBreaks : Bool → List Char → Option (List Char)
  | true, [] => none
  | false, [] => some []
  | _, '\r' :: '\n' :: rest => skipBreaks false rest
  | true, c :: rest =>
    if c = '\n' then skipBreaks false rest
    else if isPlain c then skipBreaks true rest
    else none
  | false, c :: rest =>
    if c = '\n' ∨ isGap c then skipBreaks false rest
    else if c = '#' then skipBreaks true rest
    else some (c :: rest)

/-- The text after the end of a line, before which blanks and a comment may stand. -/
def nextLine? (cs : List Char) : Option (List Char) :=
  let rest := match skipGaps cs with
    | '#' :: comment => comment.dropWhile isPlain
    | cs => cs
  match rest with
  | [] => some []
  | '\n' :: rest => some rest
  | '\r' :: '\n' :: rest => some rest
  | _ => none

/-! ## Keys -/

/-- The characters of keys without quotes. -/
def isWordChar (c : Char) : Bool := c.isAlphanum || c == '-' || c == '_'

/-- Reads a name in a key. -/
def readName : List Char → Option (String × List Char)
  | '"' :: rest => Quotation.double.read rest
  | '\x27' :: rest => Quotation.single.read rest
  | cs =>
    let word := cs.takeWhile isWordChar
    if word.isEmpty then none else some (String.ofList word, cs.dropWhile isWordChar)

/-- Reads names with points between them, and the blanks around them. -/
def readNames : Nat → List Char → Option (List String × List Char)
  | 0, _ => none
  | fuel + 1, cs => do
    let name ← readName (skipGaps cs)
    match skipGaps name.2 with
    | '.' :: rest => do
      let more ← readNames fuel rest
      some (name.1 :: more.1, more.2)
    | rest => some ([name.1], rest)

/-- Reads a key. -/
def readKey (cs : List Char) : Option (KeyPath × List Char) := do
  let names ← readNames (cs.length + 1) cs
  let key ← KeyPath.ofList? names.1
  some (key, names.2)

/-! ## Values -/

/-- Number of arrays and tables in braces that never lie around a value. -/
def nestingLimit : Nat := 80

mutual

/-- Reads a value at a level of nesting. -/
def readValue : Nat → Nat → List Char → Option (Document × List Char)
  | 0, _, _ => none
  | fuel + 1, level, cs =>
    match cs with
    | '[' :: rest =>
      if level + 1 < nestingLimit then
        (readItems fuel (level + 1) rest).map fun r ↦ (.array r.1 true, r.2)
      else none
    | '\x7b' :: rest =>
      if level + 1 < nestingLimit then
        (readPairs fuel (level + 1) true .empty rest).map fun r ↦ (r.1.document, r.2)
      else none
    | cs =>
      match readQuoted cs with
      | some r => some (.string r.1, r.2)
      | none => (Scalar.read cs).map fun r ↦ (r.1.document, r.2)

/-- Reads the items of an array, from the first one or after a comma, up to its end. -/
def readItems : Nat → Nat → List Char → Option (List Document × List Char)
  | 0, _, _ => none
  | fuel + 1, level, cs => do
    match ← skipBreaks false cs with
    | ']' :: rest => some ([], rest)
    | cs => do
      let item ← readValue fuel level cs
      match ← skipBreaks false item.2 with
      | ',' :: rest => do
        let more ← readItems fuel level rest
        some (item.1 :: more.1, more.2)
      | ']' :: rest => some ([item.1], rest)
      | _ => none

/-- Reads the pairs of a table in braces, from the first one or after a comma, up to its end, and
adds them to the ones before. -/
def readPairs : Nat → Nat → Bool → Table → List Char → Option (Table × List Char)
  | 0, _, _, _, _ => none
  | fuel + 1, level, isFirst, t, cs =>
    match skipGaps cs with
    | '\x7d' :: rest => if isFirst then some (t, rest) else none
    | cs => do
      let key ← readKey cs
      match key.2 with
      | '=' :: rest => do
        let value ← readValue fuel level (skipGaps rest)
        let t ← t.assign key.1 value.1
        match skipGaps value.2 with
        | ',' :: rest => readPairs fuel level false t rest
        | '\x7d' :: rest => some (t, rest)
        | _ => none
      | _ => none

end

/-- Fuel that reading a value of some length cannot use up. -/
def fuelFor (cs : List Char) : Nat := 2 * cs.length + 2

/-! ## Lines -/

/-- Reads an assignment. -/
def readAssignment (cs : List Char) : Option (Line × List Char) := do
  let key ← readKey cs
  match key.2 with
  | '=' :: rest => do
    let value ← readValue (fuelFor rest) 0 (skipGaps rest)
    some (.assign key.1 value.1, value.2)
  | _ => none

/-- Reads the key of a header and the brackets after it. -/
def readHeader (line : KeyPath → Line) (closing cs : List Char) : Option (Line × List Char) := do
  let key ← readKey cs
  if closing.isPrefixOf key.2 then some (line key.1, key.2.drop closing.length) else none

/-- Reads a line that holds something, up to what may follow on it. -/
def readLine : List Char → Option (Line × List Char)
  | '[' :: '[' :: rest => readHeader .element [']', ']'] rest
  | '[' :: rest => readHeader .table [']'] rest
  | cs => readAssignment cs

/-- Whether nothing but a comment is left of the line. -/
def isBare (cs : List Char) : Bool :=
  match cs with
  | [] => true
  | c :: _ => c == '#' || c == '\n' || c == '\r'

/-- Reads the lines of a text. -/
def readLines : Nat → List Char → Option (List Line)
  | 0, _ => none
  | fuel + 1, cs =>
    let cs := skipGaps cs
    if cs.isEmpty then some []
    else if isBare cs then do
      let rest ← nextLine? cs
      readLines fuel rest
    else do
      let line ← readLine cs
      let rest ← nextLine? line.2
      let more ← readLines fuel rest
      some (line.1 :: more)

/-- Drops the mark of a text in Unicode. -/
def dropMark : List Char → List Char
  | '\uFEFF' :: rest => rest
  | cs => cs

/-- The document of a text, if it is TOML. -/
def document? (text : String) : Option Document := do
  let cs := dropMark text.toList
  let lines ← readLines (cs.length + 1) cs
  let table ← Table.ofLines? lines
  some table.document

end Certification.Toml
