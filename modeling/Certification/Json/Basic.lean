import Certification.Number.Binary64

/-!
# JSON values

JSON values with three kinds of number, their accessors, and equality. Objects are lists of entries;
`Json.SortedKeys` says that the keys of every object inside a value stand in strictly increasing
order, and `Json.record` builds such an object from entries in any order. Two numbers of different
kinds are never equal, and the two zeros of the third kind are.
-/

namespace Certification

/-- A JSON number: a natural number of 64 bits, a negative integer down to `-2 ^ 63`, or a binary64
number. -/
inductive Number where
  | natural (n : Fin (2 ^ 64))
  /-- The integer `-(n + 1)`. -/
  | negative (n : Fin (2 ^ 63))
  | double (x : Binary64)
  deriving DecidableEq

namespace Number

/-- Integer value of a number without fraction or exponent. -/
def toInt? : Number → Option Int
  | .natural n => some (n.val : Int)
  | .negative n => some (-(n.val : Int) - 1)
  | .double _ => none

/-- The number as a natural number of 64 bits; only the first kind is one. -/
def toNat? : Number → Option Nat
  | .natural n => some n.val
  | _ => none

/-- The number rounded to binary64. -/
def toDouble? : Number → Option Binary64
  | .natural n => Binary64.ofInt? n.val
  | .negative n => Binary64.ofInt? (-(n.val : Int) - 1)
  | .double x => some x

/-- Equality of numbers: same kind, same value. -/
def same : Number → Number → Bool
  | .natural m, .natural n => m == n
  | .negative m, .negative n => m == n
  | .double x, .double y => x.sameValue y
  | _, _ => false

/-- The number of a natural number that fits 64 bits. -/
def ofNat? (n : Nat) : Option Number :=
  if h : n < 2 ^ 64 then some (.natural ⟨n, h⟩) else none

/-- The number of an integer that fits 64 bits. -/
def ofInt? (i : Int) : Option Number :=
  if 0 ≤ i then ofNat? i.toNat
  else
    let n := (-i - 1).toNat
    if h : n < 2 ^ 63 then some (.negative ⟨n, h⟩) else none

end Number

/-- A JSON value. -/
inductive Json where
  | null
  | bool (b : Bool)
  | number (n : Number)
  | string (s : String)
  | array (items : List Json)
  | object (entries : List (String × Json))

namespace Json

instance : Inhabited Json := ⟨.null⟩

/-- Inserts an entry into entries sorted by key; an entry with the same key is replaced. -/
def insertEntry {α : Type} (key : String) (value : α) :
    List (String × α) → List (String × α)
  | [] => [(key, value)]
  | (k, v) :: rest =>
    if key = k then (key, value) :: rest
    else if key < k then (key, value) :: (k, v) :: rest
    else (k, v) :: insertEntry key value rest

/-- Entries sorted by key; of entries with one key the last stays. -/
def sortEntries {α : Type} (entries : List (String × α)) : List (String × α) :=
  entries.foldl (fun sorted entry ↦ insertEntry entry.1 entry.2 sorted) []

/-- Entries without those of one key. -/
def eraseEntry {α : Type} (key : String) (entries : List (String × α)) : List (String × α) :=
  entries.filter fun entry ↦ entry.1 ≠ key

/-- The object with the given entries. -/
def record (entries : List (String × Json)) : Json := .object (sortEntries entries)

/-- The value of an optional field, absent as null. -/
def ofOption {α : Type} (f : α → Json) : Option α → Json
  | none => .null
  | some a => f a

/-- The array of strings. -/
def ofStrings (ss : List String) : Json := .array (ss.map .string)

/-- The number of a natural number; beyond 64 bits, the greatest of that kind. -/
def ofNat (n : Nat) : Json :=
  .number (.natural ⟨min n (2 ^ 64 - 1), Nat.lt_of_le_of_lt (Nat.min_le_right _ _) (by decide)⟩)

/-- The number of an integer; beyond 64 bits, null. -/
def ofInt (i : Int) : Json :=
  match Number.ofInt? i with
  | some n => .number n
  | none => .null

/-- Value of a field of an object; nothing for any other value (`Value::get`). -/
def get? (key : String) : Json → Option Json
  | .object entries => entries.lookup key
  | _ => none

/-- Text of a string (`as_str`). -/
def string? : Json → Option String
  | .string s => some s
  | _ => none

/-- Value of a boolean. -/
def bool? : Json → Option Bool
  | .bool b => some b
  | _ => none

/-- The number inside a number. -/
def number? : Json → Option Number
  | .number n => some n
  | _ => none

/-- Items of an array (`as_array`). -/
def array? : Json → Option (List Json)
  | .array items => some items
  | _ => none

/-- Entries of an object (`as_object`). -/
def object? : Json → Option (List (String × Json))
  | .object entries => some entries
  | _ => none

/-- Natural number of a number of the first kind (`as_u64`). -/
def nat? (j : Json) : Option Nat := j.number?.bind Number.toNat?

/-- Any number, rounded to binary64 (`as_f64`). -/
def double? (j : Json) : Option Binary64 := j.number?.bind Number.toDouble?

/-- Whether the value is a string (`is_string`). -/
def isString (j : Json) : Bool := j.string?.isSome

/-- Whether the value is an object (`is_object`). -/
def isObject (j : Json) : Bool := j.object?.isSome

mutual

/-- Equality of JSON values. -/
def same : Json → Json → Bool
  | .null, .null => true
  | .bool a, .bool b => a == b
  | .number m, .number n => m.same n
  | .string s, .string t => s == t
  | .array as, .array bs => sameItems as bs
  | .object as, .object bs => sameEntries as bs
  | _, _ => false

/-- Equality of lists of values, item by item. -/
def sameItems : List Json → List Json → Bool
  | [], [] => true
  | a :: as, b :: bs => same a b && sameItems as bs
  | _, _ => false

/-- Equality of lists of entries, entry by entry. -/
def sameEntries : List (String × Json) → List (String × Json) → Bool
  | [], [] => true
  | (k, a) :: as, (l, b) :: bs => k == l && same a b && sameEntries as bs
  | _, _ => false

end

mutual

/-- Decides whether two values are one and the same, the two zeros told apart. -/
def decEq : (a b : Json) → Decidable (a = b)
  | .null, .null => isTrue rfl
  | .bool a, .bool b => decidable_of_iff (a = b) (by simp)
  | .number m, .number n => decidable_of_iff (m = n) (by simp)
  | .string s, .string t => decidable_of_iff (s = t) (by simp)
  | .array as, .array bs =>
    match decEqItems as bs with
    | isTrue h => isTrue (by rw [h])
    | isFalse h => isFalse (by simpa using h)
  | .object as, .object bs =>
    match decEqEntries as bs with
    | isTrue h => isTrue (by rw [h])
    | isFalse h => isFalse (by simpa using h)
  | .null, .bool _ | .null, .number _ | .null, .string _ | .null, .array _ | .null, .object _
  | .bool _, .null | .bool _, .number _ | .bool _, .string _ | .bool _, .array _
  | .bool _, .object _
  | .number _, .null | .number _, .bool _ | .number _, .string _ | .number _, .array _
  | .number _, .object _
  | .string _, .null | .string _, .bool _ | .string _, .number _ | .string _, .array _
  | .string _, .object _
  | .array _, .null | .array _, .bool _ | .array _, .number _ | .array _, .string _
  | .array _, .object _
  | .object _, .null | .object _, .bool _ | .object _, .number _ | .object _, .string _
  | .object _, .array _ => isFalse (by simp)

/-- Decides whether two lists of values are the same. -/
def decEqItems : (as bs : List Json) → Decidable (as = bs)
  | [], [] => isTrue rfl
  | [], _ :: _ | _ :: _, [] => isFalse (by simp)
  | a :: as, b :: bs =>
    match decEq a b, decEqItems as bs with
    | isTrue h, isTrue hs => isTrue (by rw [h, hs])
    | isFalse h, _ => isFalse (by simp [h])
    | _, isFalse hs => isFalse (by simp [hs])

/-- Decides whether two lists of entries are the same. -/
def decEqEntries : (as bs : List (String × Json)) → Decidable (as = bs)
  | [], [] => isTrue rfl
  | [], _ :: _ | _ :: _, [] => isFalse (by simp)
  | (k, a) :: as, (l, b) :: bs =>
    if hk : k = l then
      match decEq a b, decEqEntries as bs with
      | isTrue h, isTrue hs => isTrue (by rw [hk, h, hs])
      | isFalse h, _ => isFalse (by simp [h])
      | _, isFalse hs => isFalse (by simp [hs])
    else isFalse (by simp [hk])

end

instance : DecidableEq Json := decEq

/-- Strictly increasing keys. -/
def Increasing {α : Type} (entries : List (String × α)) : Prop :=
  entries.Pairwise fun a b ↦ a.1 < b.1

/-- A value in which the keys of every object stand in strictly increasing order. -/
inductive SortedKeys : Json → Prop where
  | null : SortedKeys .null
  | bool (b : Bool) : SortedKeys (.bool b)
  | number (n : Number) : SortedKeys (.number n)
  | string (s : String) : SortedKeys (.string s)
  | array {items : List Json} (h : ∀ j ∈ items, SortedKeys j) : SortedKeys (.array items)
  | object {entries : List (String × Json)} (increasing : Increasing entries)
      (h : ∀ e ∈ entries, SortedKeys e.2) : SortedKeys (.object entries)

end Json

end Certification
