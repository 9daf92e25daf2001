import Certification.Json.Basic
import Certification.Path.Basic

/-!
# Looking up a path

A path is followed from a value inwards. On an array a key that is written as a number acts as an
index, and on an object an index acts as the key with its digits. The key `length` of an array or a
string is computed, so nothing lies beyond it. A step that leads nowhere ends the lookup without a
value; a lookup never fails otherwise.
-/

namespace Certification

namespace Path

/-- Index that a key stands for: digits, with an optional plus sign, of a number that fits. -/
def indexOfKey? (key : String) : Option Nat :=
  let digits := match key.toList with
    | '+' :: rest => rest
    | cs => cs
  let n := Nat.ofDigitChars 10 digits 0
  if digits.isEmpty || !digits.all Char.isDigit || indexLimit ≤ n then none else some n

/-- Length of an array in items or of a string in characters, when a step asks for it. -/
def computedLength? : Segment → Json → Option Nat
  | .key "length", .array items => some items.length
  | .key "length", .string s => some s.length
  | _, _ => none

/-- Value that lies one step inside another. -/
def child? : Segment → Json → Option Json
  | .key key, .object entries => entries.lookup key
  | .key key, .array items => (indexOfKey? key).bind (items[·]?)
  | .index n, .array items => items[n]?
  | .index n, .object entries => entries.lookup (toString n)
  | _, _ => none

/-- Follows steps from a value: the loop of `PathExpr::lookup`. -/
def follow : List Segment → Json → Option Json
  | [], j => some j
  | segment :: rest, j =>
    match computedLength? segment j with
    | some n => if rest.isEmpty then some (.ofNat n) else none
    | none => (child? segment j).bind (follow rest)

/-- The value at a path (`PathExpr::lookup`). -/
def lookup (p : Path) (root : Json) : Option Json := follow p.segments root

end Path

end Certification
