import Certification.Proofs.Json.Codec

/-!
# Values in another arrangement

Entries are printed in one order, and the value of what is printed has them in another. A function
that `Rearranges` values changes the order of entries with distinct keys and nothing else: printing
keeps every order, and `Json.canonical`, the value of the document of a value, sorts the entries of
every object. What can be decoded from a record in every arrangement can be decoded from a text and
from a value alike. `Json.Reordered` relates all arrangements of a value, those too in which one
part stands in several orders.
-/

namespace Certification

namespace Json

/-! ### The canonical arrangement -/

mutual

/-- The value with the entries of every object sorted. -/
def canonical : Json → Json
  | .null => .null
  | .bool b => .bool b
  | .number n => .number n
  | .string s => .string s
  | .array items => .array (canonicalItems items)
  | .object entries => .record (canonicalEntries entries)

/-- The values of a list, each with the entries of every object sorted. -/
def canonicalItems : List Json → List Json
  | [] => []
  | j :: js => canonical j :: canonicalItems js

/-- Entries whose values have the entries of every object sorted. -/
def canonicalEntries : List (String × Json) → List (String × Json)
  | [] => []
  | (k, j) :: rest => (k, canonical j) :: canonicalEntries rest

end

private theorem canonicalItems_eq_map (items : List Json) :
    canonicalItems items = items.map canonical := by
  induction items with
  | nil => rfl
  | cons j js ih => rw [canonicalItems, ih, List.map_cons]

private theorem canonicalEntries_eq_map (entries : List (String × Json)) :
    canonicalEntries entries = entries.map fun e ↦ (e.1, canonical e.2) := by
  induction entries with
  | nil => rfl
  | cons e rest ih => rw [canonicalEntries, ih, List.map_cons]

/-- In the canonical arrangement an entry is found where it was before, when no key is repeated. -/
theorem get?_canonical_object (key : String) (entries : List (String × Json)) :
    (canonical (.object entries)).get? key =
      ((valuesAt key entries).getLast?).map canonical := by
  rw [canonical, canonicalEntries_eq_map, get?_record]
  simp [valuesAt, List.filter_map, Function.comp_def]

end Json

mutual

/-- The value of the document of a value is its canonical arrangement. -/
theorem Document.toJson?_ofJson_eq_canonical :
    ∀ j : Json, (Document.ofJson j).toJson? = some j.canonical
  | .null | .bool _ | .number _ | .string _ => rfl
  | .array items => by
    rw [Document.ofJson, Document.toJson?, Document.toItems?_ofItems_eq_canonical items]
    rfl
  | .object entries => by
    rw [Document.ofJson, Document.toJson?, Document.toEntries?_ofEntries_eq_canonical entries]
    rfl

/-- The values of the documents of a list of values are their canonical arrangements. -/
theorem Document.toItems?_ofItems_eq_canonical :
    ∀ items : List Json,
      Document.toItems? (Document.ofItems items) = some (Json.canonicalItems items)
  | [] => rfl
  | j :: js => by
    rw [Document.ofItems, Document.toItems?, Document.toJson?_ofJson_eq_canonical j,
      Document.toItems?_ofItems_eq_canonical js]
    rfl

/-- The values of the documents of entries are their canonical arrangements. -/
theorem Document.toEntries?_ofEntries_eq_canonical :
    ∀ entries : List (String × Json),
      Document.toEntries? (Document.ofEntries entries) = some (Json.canonicalEntries entries)
  | [] => rfl
  | (k, j) :: rest => by
    rw [Document.ofEntries, Document.toEntries?, Document.toJson?_ofJson_eq_canonical j,
      Document.toEntries?_ofEntries_eq_canonical rest]
    rfl

end

namespace Json

/-! ### Arrangements -/

/-- The function changes the order of entries with distinct keys, at every level, and nothing
else. -/
structure Rearranges (f : Json → Json) : Prop where
  null : f .null = .null
  bool (b : Bool) : f (.bool b) = .bool b
  number (n : Number) : f (.number n) = .number n
  string (s : String) : f (.string s) = .string s
  array (items : List Json) : f (.array items) = .array (items.map f)
  object (entries : List (String × Json)) (h : (entries.map Prod.fst).Nodup) :
    ∃ es, f (.object entries) = .object es ∧ es.Perm (entries.map fun e ↦ (e.1, f e.2))

namespace Rearranges

/-- Values stay as they are. -/
theorem id : Rearranges id := by
  constructor
  · rfl
  · exact fun _ ↦ rfl
  · exact fun _ ↦ rfl
  · exact fun _ ↦ rfl
  · exact fun items ↦ by rw [List.map_id]; rfl
  · intro entries _
    exact ⟨entries, rfl, by simp⟩

/-- The canonical arrangement is one. -/
theorem canonical : Rearranges canonical := by
  constructor
  · rfl
  · exact fun _ ↦ rfl
  · exact fun _ ↦ rfl
  · exact fun _ ↦ rfl
  · intro items
    rw [Json.canonical, canonicalItems_eq_map]
  · intro entries h
    refine ⟨sortEntries (canonicalEntries entries), rfl, ?_⟩
    rw [canonicalEntries_eq_map]
    apply perm_sortEntries
    rw [List.map_map]
    exact h

end Rearranges

/-! ### One arrangement from another -/

/-- One value is had from another by changing the order of entries with distinct keys, anywhere
inside and any number of times, each time in another way. -/
inductive Reordered : Json → Json → Prop where
  | refl (j : Json) : Reordered j j
  | trans {i j k : Json} (first : Reordered i j) (second : Reordered j k) : Reordered i k
  | entries {as bs : List (String × Json)} (distinct : (as.map Prod.fst).Nodup)
      (perm : as.Perm bs) : Reordered (.object as) (.object bs)
  | item {j k : Json} (before after : List Json) (h : Reordered j k) :
    Reordered (.array (before ++ j :: after)) (.array (before ++ k :: after))
  | value {j k : Json} (before after : List (String × Json)) (key : String) (h : Reordered j k) :
    Reordered (.object (before ++ (key, j) :: after)) (.object (before ++ (key, k) :: after))

/-- Arrangements of one value have one canonical arrangement. -/
theorem Reordered.canonical_eq {j k : Json} (h : Reordered j k) : j.canonical = k.canonical := by
  induction h with
  | refl j => rfl
  | trans _ _ hfirst hsecond => exact hfirst.trans hsecond
  | @entries as bs distinct perm =>
    rw [canonical, canonical, record, record, canonicalEntries_eq_map, canonicalEntries_eq_map]
    congr 1
    apply sortEntries_eq_of_perm (perm.map _)
    rw [List.map_map]
    exact distinct
  | item before after _ ih =>
    simp only [canonical, canonicalItems_eq_map, List.map_append, List.map_cons, ih]
  | value before after key _ ih =>
    simp only [canonical, canonicalEntries_eq_map, List.map_append, List.map_cons, ih]

end Json

end Certification
