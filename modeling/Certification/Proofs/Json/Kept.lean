import Certification.Proofs.Json.Sorted

/-!
# Entries kept beside fields

A record may keep the entries that it does not know beside its fields. Sorted entries are determined
by what is found under each key, so sorting commutes with leaving out keys and with every order in
which the fields are written. `Json.Kept` says of the entries beside some fields that they are
sorted and that none of them has the name of a field; an object that is made of the fields and of
such entries gives both of them back.
-/

namespace Certification

namespace Json

variable {α : Type}

/-! ### Sorted entries -/

private theorem lookup_eq_none_of_forall_lt {key : String} {entries : List (String × α)}
    (h : ∀ e ∈ entries, key < e.1) : entries.lookup key = none := by
  apply lookup_eq_none_of_notMem
  intro hmem
  obtain ⟨e, he, heq⟩ := List.mem_map.mp hmem
  exact (h e he).ne heq.symm

/-- The value of each of the entries with increasing keys is found under its key. -/
theorem Increasing.lookup_of_mem {entries : List (String × α)} (hi : Increasing entries)
    {key : String} {value : α} (h : (key, value) ∈ entries) : entries.lookup key = some value := by
  induction entries with
  | nil => cases h
  | cons first rest ih =>
    obtain ⟨hfirst, hrest⟩ := List.pairwise_cons.mp hi
    rcases List.mem_cons.mp h with rfl | hmem
    · exact List.lookup_cons_self
    · rw [lookup_cons_of_ne (hfirst _ hmem).ne']
      exact ih hrest hmem

/-- Entries with increasing keys are determined by what is found under each key. -/
theorem Increasing.ext {as bs : List (String × α)} (ha : Increasing as) (hb : Increasing bs)
    (h : ∀ key, as.lookup key = bs.lookup key) : as = bs := by
  induction as generalizing bs with
  | nil =>
    cases bs with
    | nil => rfl
    | cons b bs =>
      have hnone := h b.1
      rw [List.lookup_cons_self] at hnone
      cases hnone
  | cons a as ih =>
    obtain ⟨key, value⟩ := a
    obtain ⟨hfirst, hrest⟩ := List.pairwise_cons.mp ha
    cases bs with
    | nil =>
      have hnone := h key
      rw [List.lookup_cons_self] at hnone
      cases hnone
    | cons b bs =>
      obtain ⟨key', value'⟩ := b
      obtain ⟨hfirst', hrest'⟩ := List.pairwise_cons.mp hb
      -- The least key of either list is found in the other one, so the two are the same.
      have hkey : key = key' := by
        rcases lt_trichotomy key key' with hlt | heq | hgt
        · have hnone : ((key', value') :: bs).lookup key = none := by
            apply lookup_eq_none_of_forall_lt
            intro e he
            rcases List.mem_cons.mp he with rfl | he
            · exact hlt
            · exact lt_trans hlt (hfirst' e he)
          rw [← h, List.lookup_cons_self] at hnone
          cases hnone
        · exact heq
        · have hnone : ((key, value) :: as).lookup key' = none := by
            apply lookup_eq_none_of_forall_lt
            intro e he
            rcases List.mem_cons.mp he with rfl | he
            · exact hgt
            · exact lt_trans hgt (hfirst e he)
          rw [h, List.lookup_cons_self] at hnone
          cases hnone
      subst hkey
      have hvalue := h key
      rw [List.lookup_cons_self, List.lookup_cons_self, Option.some.injEq] at hvalue
      have htail : as = bs := by
        apply ih hrest hrest'
        intro k
        by_cases hk : k = key
        · subst hk
          rw [lookup_eq_none_of_forall_lt hfirst, lookup_eq_none_of_forall_lt hfirst']
        · have hlater := h k
          rwa [lookup_cons_of_ne hk, lookup_cons_of_ne hk] at hlater
      rw [hvalue, htail]

/-- What is found when the keys that are not to be kept are left out. -/
theorem lookup_filter_key (keep : String → Bool) (key : String) (entries : List (String × α)) :
    (entries.filter fun e ↦ keep e.1).lookup key =
      if keep key then entries.lookup key else none := by
  induction entries with
  | nil => simp
  | cons e rest ih =>
    obtain ⟨k, value⟩ := e
    rw [List.filter_cons]
    by_cases hk : key = k
    · subst hk
      cases hkeep : keep key with
      | false => simp [ih, hkeep]
      | true => simp
    · rw [lookup_cons_of_ne hk, ← ih]
      split
      · rw [lookup_cons_of_ne hk]
      · rfl

/-- Keys are left out of sorted entries as of the entries that are sorted. -/
theorem filter_sortEntries (keep : String → Bool) (entries : List (String × α)) :
    (sortEntries entries).filter (fun e ↦ keep e.1) =
      sortEntries (entries.filter fun e ↦ keep e.1) := by
  apply Increasing.ext
  · exact (increasing_sortEntries entries).filter _
  · exact increasing_sortEntries _
  · intro key
    rw [lookup_filter_key, lookup_sortEntries, lookup_sortEntries]
    by_cases hkeep : keep key = true
    · have hpass : ∀ e : String × α, e.1 = key → keep e.1 = true := by
        rintro e rfl
        exact hkeep
      rw [if_pos hkeep, valuesAt_filter hpass]
    · have hnone : valuesAt key (entries.filter fun e ↦ keep e.1) = [] := by
        simp only [valuesAt, List.filter_filter, List.map_eq_nil_iff, List.filter_eq_nil_iff]
        intro e _ he
        simp only [Bool.and_eq_true, decide_eq_true_eq] at he
        exact hkeep (he.1 ▸ he.2)
      rw [if_neg hkeep, hnone]
      rfl

/-- At most one entry is sorted. -/
theorem sortEntries_of_length_le_one {entries : List (String × α)} (h : entries.length ≤ 1) :
    sortEntries entries = entries := by
  apply sortEntries_of_increasing
  match entries, h with
  | [], _ => exact .nil
  | [e], _ => exact List.pairwise_singleton _ e

/-- A value that stands alone under its key stands there when the entries are sorted. -/
theorem valuesAt_sortEntries_of_length_le_one {key : String} {entries : List (String × α)}
    (h : (valuesAt key entries).length ≤ 1) :
    valuesAt key (sortEntries entries) = valuesAt key entries := by
  rw [valuesAt, List.length_map] at h
  rw [valuesAt, filter_sortEntries fun k ↦ decide (k = key), sortEntries_of_length_le_one h,
    valuesAt]

/-- What is found when the entry of one key is taken out. -/
theorem lookup_eraseEntry (key name : String) (entries : List (String × α)) :
    (eraseEntry name entries).lookup key =
      if key = name then none else entries.lookup key := by
  rw [eraseEntry, lookup_filter_key fun k ↦ decide (k ≠ name)]
  by_cases h : key = name <;> simp [h]

/-- Sorted entries lose nothing when an absent key is taken out. -/
theorem eraseEntry_of_lookup_eq_none {name : String} {entries : List (String × α)}
    (hi : Increasing entries) (h : entries.lookup name = none) :
    eraseEntry name entries = entries := by
  refine Increasing.ext (hi.filter _) hi fun key ↦ ?_
  rw [lookup_eraseEntry]
  by_cases hkey : key = name
  · rw [if_pos hkey, hkey, h]
  · rw [if_neg hkey]

/-- Sorted entries are as before when what is taken out is put back. -/
theorem insertEntry_eraseEntry {name : String} {value : α} {entries : List (String × α)}
    (hi : Increasing entries) (h : entries.lookup name = some value) :
    insertEntry name value (eraseEntry name entries) = entries := by
  refine Increasing.ext (increasing_insertEntry (hi.filter _)) hi fun key ↦ ?_
  rw [lookup_insertEntry, lookup_eraseEntry]
  by_cases hkey : key = name
  · rw [if_pos hkey, hkey, h]
  · rw [if_neg hkey, if_neg hkey]

private theorem valuesAt_append (key : String) (as bs : List (String × α)) :
    valuesAt key (as ++ bs) = valuesAt key as ++ valuesAt key bs := by
  simp [valuesAt]

/-! ### Kept entries -/

/-- Entries that are kept beside the fields with the given names: they are sorted, and none has the
name of a field. -/
structure Kept (names : List String) (entries : List (String × Json)) : Prop where
  increasing : Increasing entries
  sorted : ∀ e ∈ entries, SortedKeys e.2
  foreign : ∀ e ∈ entries, e.1 ∉ names

namespace Kept

variable {names : List String} {fields entries : List (String × Json)}

/-- No entry is kept that no object holds. -/
theorem nil (names : List String) : Kept names [] := by
  constructor
  · exact .nil
  · simp
  · simp

/-- The entries of a sorted object are kept when those with the names of fields are left out. -/
theorem of_filter (keep : String → Bool) (hi : Increasing entries)
    (hs : ∀ e ∈ entries, SortedKeys e.2) (hkeep : ∀ key, keep key = true → key ∉ names) :
    Kept names (entries.filter fun e ↦ keep e.1) := by
  constructor
  · exact hi.filter _
  · intro e he
    exact hs e (List.mem_filter.mp he).1
  · intro e he
    exact hkeep e.1 (List.mem_filter.mp he).2

/-- Under the name of a field stands what was written for the field. -/
theorem lookup_sortEntries_append (h : Kept names entries) {name : String} (hn : name ∈ names) :
    (sortEntries (fields ++ entries)).lookup name = (valuesAt name fields).getLast? := by
  have hnone : valuesAt name entries = [] := by
    simp only [valuesAt, List.map_eq_nil_iff, List.filter_eq_nil_iff, decide_eq_true_eq]
    intro e he heq
    exact h.foreign e he (heq ▸ hn)
  rw [lookup_sortEntries, valuesAt_append, hnone, List.append_nil]

/-- What is left without the fields is what was kept. -/
theorem filter_sortEntries_append (h : Kept names entries) (keep : String → Bool)
    (hfields : ∀ e ∈ fields, keep e.1 = false) (hkeep : ∀ key, key ∉ names → keep key = true) :
    (sortEntries (fields ++ entries)).filter (fun e ↦ keep e.1) = entries := by
  have hnone : fields.filter (fun e ↦ keep e.1) = [] := by
    apply List.filter_eq_nil_iff.mpr
    intro e he
    simp [hfields e he]
  have hall : entries.filter (fun e ↦ keep e.1) = entries := by
    apply List.filter_eq_self.mpr
    intro e he
    exact hkeep e.1 (h.foreign e he)
  rw [filter_sortEntries, List.filter_append, hnone, List.nil_append, hall,
    sortEntries_of_increasing h.increasing]

/-- Fields with sorted keys and kept entries make an object with sorted keys. -/
theorem sortedKeys_record (h : Kept names entries) (hfields : ∀ e ∈ fields, SortedKeys e.2) :
    SortedKeys (record (fields ++ entries)) := by
  apply Json.sortedKeys_record
  intro e he
  rcases List.mem_append.mp he with he | he
  · exact hfields e he
  · exact h.sorted e he

end Kept

end Json

end Certification
