import Certification.Proofs.Json.Entries
import Mathlib.Data.String.Basic

/-!
# Sorted keys

An object that is made of entries has its keys in strictly increasing order, and entries that stand
in this order already are kept as they are. So the value of a document has sorted keys at every
level, and a value with sorted keys is the value of its document.
-/

namespace Certification

namespace Json

variable {α : Type}

/-! ### Sorting entries -/

/-- An insertion adds no entry but the new one. -/
theorem mem_insertEntry {key : String} {value : α} {entries : List (String × α)} {e : String × α}
    (he : e ∈ insertEntry key value entries) : e = (key, value) ∨ e ∈ entries := by
  induction entries with
  | nil => exact .inl (List.mem_singleton.mp he)
  | cons first rest ih =>
    obtain ⟨k, v⟩ := first
    simp only [insertEntry] at he
    split at he
    · exact (List.mem_cons.mp he).imp_right (List.mem_cons_of_mem _)
    · split at he
      · exact List.mem_cons.mp he
      · rcases List.mem_cons.mp he with rfl | he
        · exact .inr List.mem_cons_self
        · exact (ih he).imp_right (List.mem_cons_of_mem _)

/-- An insertion keeps the keys in order. -/
theorem increasing_insertEntry {key : String} {value : α} {entries : List (String × α)}
    (h : Increasing entries) : Increasing (insertEntry key value entries) := by
  induction entries with
  | nil => exact List.pairwise_singleton _ _
  | cons first rest ih =>
    obtain ⟨k, v⟩ := first
    obtain ⟨hfirst, hrest⟩ := List.pairwise_cons.mp h
    simp only [insertEntry]
    split
    · next hk =>
      subst hk
      exact List.pairwise_cons.mpr ⟨hfirst, hrest⟩
    · next hne =>
      split
      · next hlt =>
        refine List.pairwise_cons.mpr ⟨fun e he ↦ ?_, h⟩
        rcases List.mem_cons.mp he with rfl | he
        · exact hlt
        · exact lt_trans hlt (hfirst e he)
      · next hge =>
        refine List.pairwise_cons.mpr ⟨fun e he ↦ ?_, ih hrest⟩
        rcases mem_insertEntry he with rfl | he
        · exact lt_of_le_of_ne (not_lt.mp hge) (Ne.symm hne)
        · exact hfirst e he

private theorem insertEntry_of_forall_lt {key : String} {value : α} {entries : List (String × α)}
    (h : ∀ e ∈ entries, e.1 < key) :
    insertEntry key value entries = entries ++ [(key, value)] := by
  induction entries with
  | nil => rfl
  | cons first rest ih =>
    have hk : first.1 < key := h first List.mem_cons_self
    rw [insertEntry, if_neg hk.ne', if_neg hk.not_gt,
      ih fun e he ↦ h e (List.mem_cons_of_mem _ he), List.cons_append]

private theorem foldl_insertEntry_mem {entries sorted : List (String × α)} {e : String × α}
    (he : e ∈ entries.foldl (fun sorted entry ↦ insertEntry entry.1 entry.2 sorted) sorted) :
    e ∈ entries ∨ e ∈ sorted := by
  induction entries generalizing sorted with
  | nil => exact .inr he
  | cons first rest ih =>
    rcases ih he with he | he
    · exact .inl (List.mem_cons_of_mem _ he)
    · rcases mem_insertEntry he with rfl | he
      · exact .inl List.mem_cons_self
      · exact .inr he

private theorem increasing_foldl_insertEntry (entries : List (String × α))
    {sorted : List (String × α)} (h : Increasing sorted) :
    Increasing
      (entries.foldl (fun sorted entry ↦ insertEntry entry.1 entry.2 sorted) sorted) := by
  induction entries generalizing sorted with
  | nil => exact h
  | cons first rest ih => exact ih (increasing_insertEntry h)

private theorem foldl_insertEntry_of_increasing {entries sorted : List (String × α)}
    (h : Increasing (sorted ++ entries)) :
    entries.foldl (fun sorted entry ↦ insertEntry entry.1 entry.2 sorted) sorted =
      sorted ++ entries := by
  induction entries generalizing sorted with
  | nil => exact (List.append_nil sorted).symm
  | cons first rest ih =>
    have hlast : ∀ e ∈ sorted, e.1 < first.1 := fun e he ↦
      (List.pairwise_append.mp h).2.2 e he first List.mem_cons_self
    rw [List.append_cons] at h
    rw [List.foldl_cons, insertEntry_of_forall_lt hlast, ih h, ← List.append_cons]

/-- Sorting adds no entry. -/
theorem mem_of_mem_sortEntries {entries : List (String × α)} {e : String × α}
    (he : e ∈ sortEntries entries) : e ∈ entries :=
  (foldl_insertEntry_mem he).resolve_right List.not_mem_nil

/-- Sorted entries have increasing keys. -/
theorem increasing_sortEntries (entries : List (String × α)) : Increasing (sortEntries entries) :=
  increasing_foldl_insertEntry entries .nil

private theorem perm_insertEntry {key : String} {value : α} {entries : List (String × α)}
    (h : key ∉ entries.map Prod.fst) :
    (insertEntry key value entries).Perm ((key, value) :: entries) := by
  induction entries with
  | nil => exact .refl _
  | cons first rest ih =>
    obtain ⟨k, v⟩ := first
    obtain ⟨hne, hrest⟩ := not_or.mp (mt List.mem_cons.mpr h)
    rw [insertEntry, if_neg hne]
    split
    · exact .refl _
    · exact ((ih hrest).cons (k, v)).trans (.swap (key, value) (k, v) rest)

private theorem perm_foldl_insertEntry {entries sorted : List (String × α)}
    (h : ((sorted ++ entries).map Prod.fst).Nodup) :
    (entries.foldl (fun sorted entry ↦ insertEntry entry.1 entry.2 sorted) sorted).Perm
      (sorted ++ entries) := by
  induction entries generalizing sorted with
  | nil => rw [List.foldl_nil, List.append_nil]
  | cons first rest ih =>
    have hmiddle : (sorted ++ first :: rest).Perm (first :: sorted ++ rest) := List.perm_middle
    have hdistinct := (hmiddle.map Prod.fst).nodup h
    have hnew : first.1 ∉ sorted.map Prod.fst := by
      intro hmem
      rw [List.cons_append, List.map_cons, List.map_append] at hdistinct
      exact (List.nodup_cons.mp hdistinct).1 (List.mem_append_left _ hmem)
    have hinsert : (insertEntry first.1 first.2 sorted ++ rest).Perm (first :: sorted ++ rest) :=
      (perm_insertEntry hnew).append_right rest
    exact (ih ((hinsert.map Prod.fst).symm.nodup hdistinct)).trans (hinsert.trans hmiddle.symm)

/-- Sorting entries with a key for each changes nothing but their order. -/
theorem perm_sortEntries {entries : List (String × α)} (h : (entries.map Prod.fst).Nodup) :
    (sortEntries entries).Perm entries :=
  perm_foldl_insertEntry h

/-- Entries with increasing keys are sorted. -/
theorem sortEntries_of_increasing {entries : List (String × α)} (h : Increasing entries) :
    sortEntries entries = entries :=
  foldl_insertEntry_of_increasing h

/-- In which order entries with a key for each stand before they are sorted does not matter. -/
theorem sortEntries_eq_of_perm {as bs : List (String × α)} (h : as.Perm bs)
    (hdistinct : (as.map Prod.fst).Nodup) : sortEntries as = sortEntries bs := by
  have hdistinct' : (bs.map Prod.fst).Nodup := (h.map Prod.fst).nodup hdistinct
  have hsorted : (sortEntries as).Perm (sortEntries bs) :=
    (perm_sortEntries hdistinct).trans (h.trans (perm_sortEntries hdistinct').symm)
  exact hsorted.eq_of_pairwise (fun _ _ _ _ hlt hgt ↦ absurd hgt hlt.not_gt)
    (increasing_sortEntries as) (increasing_sortEntries bs)

/-- The object made of entries has sorted keys when the values have. -/
theorem sortedKeys_record {entries : List (String × Json)} (h : ∀ e ∈ entries, SortedKeys e.2) :
    SortedKeys (record entries) :=
  .object (increasing_sortEntries entries) fun e he ↦ h e (mem_of_mem_sortEntries he)

end Json

namespace Document

open Json (SortedKeys)

/-! ### Values of documents -/

mutual

/-- The value of a document has sorted keys. -/
theorem sortedKeys_of_toJson? : ∀ {d : Document} {j : Json}, d.toJson? = some j → SortedKeys j
  | .null, j, h => by
    cases h
    exact .null
  | .bool b, j, h => by
    cases h
    exact .bool b
  | .number n, j, h => by
    cases h
    exact .number n
  | .string s, j, h => by
    cases h
    exact .string s
  | .array items closed, j, h => by
    obtain ⟨js, hjs, h⟩ := Option.bind_eq_some_iff.mp h
    split at h
    · cases h
      exact .array (sortedKeys_of_toItems? hjs)
    · cases h
  | .object entries closed, j, h => by
    obtain ⟨js, hjs, h⟩ := Option.bind_eq_some_iff.mp h
    split at h
    · cases h
      exact Json.sortedKeys_record (sortedKeys_of_toEntries? hjs)
    · cases h
  | .unreadable, _, h => by cases h
  | .buried _, _, h => by cases h
  | .misplaced _, _, h => by cases h
  | .broken, _, h => by cases h

/-- The values of documents have sorted keys. -/
theorem sortedKeys_of_toItems? : ∀ {ds : List Document} {js : List Json},
    toItems? ds = some js → ∀ j ∈ js, SortedKeys j
  | [], js, h => by
    cases h
    intro j hj
    cases hj
  | d :: ds, js, h => by
    obtain ⟨j, hj, h⟩ := Option.bind_eq_some_iff.mp h
    obtain ⟨js, hjs, h⟩ := Option.bind_eq_some_iff.mp h
    cases h
    exact List.forall_mem_cons.mpr ⟨sortedKeys_of_toJson? hj, sortedKeys_of_toItems? hjs⟩

/-- The values of documents with keys have sorted keys. -/
theorem sortedKeys_of_toEntries? : ∀ {ds : List (Option String × Document)}
    {js : List (String × Json)}, toEntries? ds = some js → ∀ e ∈ js, SortedKeys e.2
  | [], js, h => by
    cases h
    intro e he
    cases he
  | (key, d) :: ds, js, h => by
    obtain ⟨k, -, h⟩ := Option.bind_eq_some_iff.mp h
    obtain ⟨j, hj, h⟩ := Option.bind_eq_some_iff.mp h
    obtain ⟨js, hjs, h⟩ := Option.bind_eq_some_iff.mp h
    cases h
    exact List.forall_mem_cons.mpr ⟨sortedKeys_of_toJson? hj, sortedKeys_of_toEntries? hjs⟩

end

private theorem toItems?_ofItems {items : List Json}
    (h : ∀ j ∈ items, (ofJson j).toJson? = some j) : toItems? (ofItems items) = some items := by
  induction items with
  | nil => rfl
  | cons j js ih =>
    obtain ⟨hj, hjs⟩ := List.forall_mem_cons.mp h
    rw [ofItems, toItems?, hj, ih hjs]
    rfl

/-- Values that are the values of their documents are so entry by entry. -/
theorem toEntries?_ofEntries {entries : List (String × Json)}
    (h : ∀ e ∈ entries, (ofJson e.2).toJson? = some e.2) :
    toEntries? (ofEntries entries) = some entries := by
  induction entries with
  | nil => rfl
  | cons e es ih =>
    obtain ⟨he, hes⟩ := List.forall_mem_cons.mp h
    rw [ofEntries, toEntries?, he, ih hes]
    rfl

/-- A value with sorted keys is the value of its document. -/
theorem toJson?_ofJson {j : Json} (h : SortedKeys j) : (ofJson j).toJson? = some j := by
  induction h with
  | null => rfl
  | bool b => rfl
  | number n => rfl
  | string s => rfl
  | array _ ih =>
    rw [ofJson, toJson?, toItems?_ofItems ih]
    rfl
  | object hinc _ ih =>
    rw [ofJson, toJson?, toEntries?_ofEntries ih]
    change some (Json.record _) = _
    rw [Json.record, Json.sortEntries_of_increasing hinc]

/-- Only the document of null has the value null. -/
theorem eq_null_of_toJson? {d : Document} (h : d.toJson? = some .null) : d = .null := by
  cases d with
  | null => rfl
  | array items closed =>
    obtain ⟨js, -, h⟩ := Option.bind_eq_some_iff.mp h
    split at h <;> cases h
  | object entries closed =>
    obtain ⟨js, -, h⟩ := Option.bind_eq_some_iff.mp h
    split at h <;> cases h
  | bool _ => cases h
  | number _ => cases h
  | string _ => cases h
  | unreadable => cases h
  | buried _ => cases h
  | misplaced _ => cases h
  | broken => cases h

end Document

end Certification
