/-!
# Path expressions

A path expression names a place inside a value: keys separated by points, and indices in square
brackets. `Path.parse` reads an expression, one character after the other, and `Path.display` writes
a path back. The empty expression names the whole value.
-/

-- As for binary64 numbers, powers are core's.
attribute [instance (20000), default_instance 20000] instPowNat

namespace Certification

/-- One step of a path. -/
inductive Segment where
  | key (name : String)
  | index (n : Nat)
  deriving DecidableEq, Repr

namespace Segment

/-- Text of a step that follows another one (`Segment::fmt`). -/
def display : Segment → String
  | .key name => "." ++ name
  | .index n => "[" ++ toString n ++ "]"

end Segment

/-- Why an expression is not a path (`PathError`). -/
inductive PathFault where
  | emptySegment
  | trailingPoint
  | strayBracket
  | missingSeparator
  | notAnIndex
  | unclosedBracket
  | indexOutOfRange
  deriving DecidableEq, Repr

/-- The wording of a fault. -/
def PathFault.reason : PathFault → String
  | .emptySegment => "empty segment"
  | .trailingPoint => "trailing '.'"
  | .strayBracket => "unexpected ']'"
  | .missingSeparator => "expected '.' or '[' between segments"
  | .notAnIndex => "index must be a non-negative integer"
  | .unclosedBracket => "unclosed '['"
  | .indexOutOfRange => "empty or oversized index"

/-- The message that names an expression and what is wrong with it. -/
def PathFault.message (fault : PathFault) (expression : String) : String :=
  "invalid path expression '" ++ expression ++ "': " ++ fault.reason

/-- A path: the steps from the outermost value inwards. -/
structure Path where
  segments : List Segment
  deriving DecidableEq, Repr

namespace Path

/-- Indices fit 64 bits. -/
def indexLimit : Nat := 2 ^ 64

/-- Where the reader of an expression stands. -/
inductive Mode where
  /-- Before a step; a key may stand here only at the start and after a point. -/
  | boundary (keyAllowed : Bool)
  /-- Inside a key, whose characters so far are kept in reverse. -/
  | inKey (read : List Char)
  /-- Inside brackets, whose digits so far are kept in reverse. -/
  | inIndex (read : List Char)
  deriving DecidableEq, Repr

/-- The key whose characters were read. -/
def keyOf (read : List Char) : Segment := .key (String.ofList read.reverse)

/-- The index whose digits were read, if there are any and it fits. -/
def indexOf? (read : List Char) : Option Segment :=
  let n := Nat.ofDigitChars 10 read.reverse 0
  if read.isEmpty || indexLimit ≤ n then none else some (.index n)

/-- Reads steps from a mode: the loop of `PathExpr::parse`. -/
def scan : Mode → List Char → Except PathFault (List Segment)
  | .boundary _, [] => .ok []
  | .boundary keyAllowed, c :: cs =>
    if c = '[' then scan (.inIndex []) cs
    else if c = '.' then
      if keyAllowed then .error .emptySegment
      else if cs.isEmpty then .error .trailingPoint
      else scan (.boundary true) cs
    else if c = ']' then .error .strayBracket
    else if keyAllowed then scan (.inKey [c]) cs
    else .error .missingSeparator
  | .inKey read, [] => .ok [keyOf read]
  | .inKey read, c :: cs =>
    if c = '[' then (keyOf read :: ·) <$> scan (.inIndex []) cs
    else if c = '.' then
      if cs.isEmpty then .error .trailingPoint
      else (keyOf read :: ·) <$> scan (.boundary true) cs
    else if c = ']' then .error .strayBracket
    else scan (.inKey (c :: read)) cs
  | .inIndex _, [] => .error .unclosedBracket
  | .inIndex read, c :: cs =>
    if c = ']' then
      match indexOf? read with
      | some segment => (segment :: ·) <$> scan (.boundary false) cs
      | none => .error .indexOutOfRange
    else if c.isDigit then scan (.inIndex (c :: read)) cs
    else .error .notAnIndex

/-- Reads a path expression (`PathExpr::parse`). -/
def parse (expression : String) : Except PathFault Path :=
  (scan (.boundary true) expression.toList).map Path.mk

/-- Text of a list of steps, the first key without its point. -/
def displaySegments : List Segment → String
  | [] => ""
  | .key name :: rest => name ++ String.join (rest.map Segment.display)
  | segments => String.join (segments.map Segment.display)

/-- Text of a path (`PathExpr::fmt`). -/
def display (p : Path) : String := displaySegments p.segments

end Path

end Certification
