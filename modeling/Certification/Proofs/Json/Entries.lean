import Certification.Json.Document

/-!
# Entries under a key

Which value a list of entries holds under a key when the key is repeated. `Json.valuesAt` lists the
values under a key in order; a lookup finds the first of them, and the object that is made of the
entries keeps the last.
-/

namespace Certification

namespace Json

variable {α : Type}

/-- The values that stand under a key, in order. -/
def valuesAt (key : String) (entries : List (String × α)) : List α :=
  (entries.filter (·.1 = key)).map Prod.snd

/-- An entry with the key adds its value. -/
theorem valuesAt_cons_self (key : String) (value : α) (entries : List (String × α)) :
    valuesAt key ((key, value) :: entries) = value :: valuesAt key entries := by
  simp [valuesAt]

/-- An entry with another key adds nothing. -/
theorem valuesAt_cons_of_ne {key k : String} (h : k ≠ key) (value : α)
    (entries : List (String × α)) :
    valuesAt key ((k, value) :: entries) = valuesAt key entries := by
  simp [valuesAt, h]

/-- Entries that are left out for their key take no value of another key with them. -/
theorem valuesAt_filter {key : String} {keep : String × α → Bool}
    (h : ∀ e : String × α, e.1 = key → keep e = true) (entries : List (String × α)) :
    valuesAt key (entries.filter keep) = valuesAt key entries := by
  induction entries with
  | nil => rfl
  | cons e rest ih =>
    by_cases hk : e.1 = key
    · rw [List.filter_cons_of_pos (h e hk)]
      subst hk
      rw [valuesAt_cons_self, valuesAt_cons_self, ih]
    · rw [List.filter_cons]
      split
      · rw [valuesAt_cons_of_ne hk, valuesAt_cons_of_ne hk, ih]
      · rw [valuesAt_cons_of_ne hk, ih]

/-- The values under a key of entries in another order. -/
theorem perm_valuesAt (key : String) {as bs : List (String × α)} (h : as.Perm bs) :
    (valuesAt key as).Perm (valuesAt key bs) :=
  (h.filter _).map Prod.snd

/-- A lookup passes over an entry with another key. -/
theorem lookup_cons_of_ne {key k : String} (h : key ≠ k) (value : α)
    (entries : List (String × α)) : ((k, value) :: entries).lookup key = entries.lookup key := by
  rw [List.lookup_cons, beq_eq_false_iff_ne.mpr h]

/-- Nothing is found under a key that no entry has. -/
theorem lookup_eq_none_of_notMem {key : String} {entries : List (String × α)}
    (h : key ∉ entries.map Prod.fst) : entries.lookup key = none := by
  apply List.lookup_eq_none_iff.mpr
  intro e he
  have hne : key ≠ e.1 := fun heq ↦ h (heq ▸ List.mem_map_of_mem he)
  simpa using hne

/-- Something is found under the keys of the entries. -/
theorem mem_keys_iff_isSome_lookup {key : String} {entries : List (String × α)} :
    key ∈ entries.map Prod.fst ↔ (entries.lookup key).isSome = true := by
  rw [List.lookup_isSome_iff, List.mem_map]
  constructor
  · rintro ⟨e, he, rfl⟩
    exact ⟨e, he, beq_self_eq_true _⟩
  · rintro ⟨e, he, hkey⟩
    exact ⟨e, he, (beq_iff_eq.mp hkey).symm⟩

/-- A lookup finds the first value under the key. -/
theorem lookup_eq_head?_valuesAt (key : String) (entries : List (String × α)) :
    entries.lookup key = (valuesAt key entries).head? := by
  induction entries with
  | nil => rfl
  | cons e rest ih =>
    obtain ⟨k, value⟩ := e
    by_cases hk : k = key
    · subst hk
      rw [List.lookup_cons_self, valuesAt_cons_self, List.head?_cons]
    · rw [lookup_cons_of_ne (Ne.symm hk), valuesAt_cons_of_ne hk, ih]

/-- After an insertion the key has the new value, and every other key the value it had. -/
theorem lookup_insertEntry (key k : String) (value : α) (entries : List (String × α)) :
    (insertEntry k value entries).lookup key =
      if key = k then some value else entries.lookup key := by
  induction entries with
  | nil =>
    by_cases h : key = k
    · subst h
      rw [insertEntry, List.lookup_cons_self, if_pos rfl]
    · rw [insertEntry, lookup_cons_of_ne h, if_neg h]
  | cons e rest ih =>
    obtain ⟨k', value'⟩ := e
    simp only [insertEntry]
    split
    · next hk =>
      subst hk
      by_cases h : key = k
      · subst h
        rw [List.lookup_cons_self, if_pos rfl]
      · rw [lookup_cons_of_ne h, lookup_cons_of_ne h, if_neg h]
    · next hk =>
      split
      · by_cases h : key = k
        · subst h
          rw [List.lookup_cons_self, if_pos rfl]
        · rw [lookup_cons_of_ne h, if_neg h]
      · by_cases h' : key = k'
        · subst h'
          rw [List.lookup_cons_self, if_neg (Ne.symm hk), List.lookup_cons_self]
        · rw [lookup_cons_of_ne h', ih, lookup_cons_of_ne h']

private theorem lookup_foldl_insertEntry (key : String) (entries sorted : List (String × α)) :
    (entries.foldl (fun sorted entry ↦ insertEntry entry.1 entry.2 sorted) sorted).lookup key =
      (valuesAt key entries).getLast?.or (sorted.lookup key) := by
  induction entries generalizing sorted with
  | nil => rfl
  | cons e rest ih =>
    obtain ⟨k, value⟩ := e
    rw [List.foldl_cons, ih, lookup_insertEntry]
    by_cases h : key = k
    · subst h
      rw [valuesAt_cons_self, List.getLast?_cons]
      cases (valuesAt key rest).getLast? <;> simp
    · rw [valuesAt_cons_of_ne (Ne.symm h), if_neg h]

/-- The sorted entries hold the last value under each key. -/
theorem lookup_sortEntries (key : String) (entries : List (String × α)) :
    (sortEntries entries).lookup key = (valuesAt key entries).getLast? := by
  rw [sortEntries, lookup_foldl_insertEntry]
  exact Option.or_none

/-- The object made of entries holds the last value under each key. -/
theorem get?_record (key : String) (entries : List (String × Json)) :
    (record entries).get? key = (valuesAt key entries).getLast? :=
  lookup_sortEntries key entries

end Json

end Certification
