import Certification.Json.Record
import Certification.Proofs.Chain
import Certification.Proofs.Json.Sorted
import Mathlib.Data.List.Forall2

/-!
# Reading back what was written

A decoder reads a value as some data when the document of the value decodes to the data, wherever
the document comes from. There is one law for each way in which decoders are put together: a record
that is written from its fields, some of them left out, is gathered into these fields, and each of
them is read as what was written for it. The other way round, what a decoder yields has the
properties that the decoders of its parts give to the parts.
-/

namespace Certification

variable {α β : Type}

/-- The value of an integer of 64 bits is the number of that integer. -/
theorem Json.exists_ofInt_eq {i : Int} (hlow : -2 ^ 63 ≤ i) (hhigh : i ≤ 2 ^ 63 - 1) :
    ∃ n, Json.ofInt i = .number n ∧ n.toInt? = some i := by
  by_cases h : 0 ≤ i
  · refine ⟨.natural ⟨i.toNat, by omega⟩, ?_, ?_⟩
    · rw [Json.ofInt, Number.ofInt?, if_pos h, Number.ofNat?, dif_pos (by omega)]
    · rw [Number.toInt?, Int.toNat_of_nonneg h]
  · refine ⟨.negative ⟨(-i - 1).toNat, by omega⟩, ?_, ?_⟩
    · rw [Json.ofInt, Number.ofInt?, if_neg h, dif_pos (by omega)]
    · rw [Number.toInt?, Int.toNat_of_nonneg (by omega)]
      congr 1
      omega

namespace Decoder

/-- The decoder reads a value as some data, wherever the document comes from. -/
def Reads (decode : Decoder α) (j : Json) (a : α) : Prop :=
  ∀ origin, decode origin (.ofJson j) = .ok a

namespace Reads

variable {decode : Decoder α}

/-- A text is read as itself. -/
theorem string (s : String) : Decoder.string.Reads (.string s) s := fun _ ↦ rfl

/-- A value with sorted keys is read as itself. -/
theorem json {j : Json} (h : j.SortedKeys) : Decoder.json.Reads j j := by
  intro origin
  rw [Decoder.json, Document.toJson?_ofJson h]

/-- An integer of 64 bits is read as itself. -/
theorem int64 {i : Int} (hlow : -2 ^ 63 ≤ i) (hhigh : i ≤ 2 ^ 63 - 1) :
    Decoder.int64.Reads (.ofInt i) i := by
  obtain ⟨n, hn, hi⟩ := Json.exists_ofInt_eq hlow hhigh
  intro origin
  simp only [Decoder.int64, integer, hn, Document.ofJson, hi, if_pos (And.intro hlow hhigh)]

/-- A boolean is read as itself. -/
theorem bool (b : Bool) : Decoder.bool.Reads (.bool b) b := fun _ ↦ rfl

/-- A number up to a bound of at most 64 bits is read as itself. -/
theorem natural {n high : Nat} {expected : String} (h : n ≤ high) (hhigh : high < 2 ^ 64)
    (origin : Origin) :
    (integer 0 high expected origin (.ofJson (.ofNat n))).map Int.toNat = .ok n := by
  have hmin : min n (2 ^ 64 - 1) = n := by omega
  have hrange : (0 : Int) ≤ n ∧ (n : Int) ≤ high := by omega
  simp only [integer, Json.ofNat, Document.ofJson, Number.toInt?, hmin, if_pos hrange]
  rfl

/-- A natural number of 64 bits is read as itself. -/
theorem nat64 {n : Nat} (h : n < 2 ^ 64) : Decoder.nat64.Reads (.ofNat n) n :=
  fun origin ↦ natural (Nat.le_sub_one_of_lt h) (by decide) origin

/-- A natural number of 32 bits is read as itself. -/
theorem nat32 {n : Nat} (h : n < 2 ^ 32) : Decoder.nat32.Reads (.ofNat n) n :=
  fun origin ↦ natural (Nat.le_sub_one_of_lt h) (by decide) origin

/-- One of the names of a choice is read as what it stands for. -/
theorem choice {names : List (String × α)} {known : List String} {name : String} {a : α}
    (h : names.lookup name = some a) : (Decoder.choice names known).Reads (.string name) a := by
  intro origin
  simp only [Decoder.choice, tagged, Document.ofJson, variant, h]

/-- Items are read one by one. -/
theorem list {write : α → Json} {read : α → α} {as : List α}
    (h : ∀ a ∈ as, decode.Reads (write a) (read a)) :
    (Decoder.list decode).Reads (.array (as.map write)) (as.map read) := by
  intro origin
  have hitems : Decoder.items decode origin (Document.ofItems (as.map write)) =
      .ok (as.map read) := by
    induction as with
    | nil => rfl
    | cons a rest ih =>
      obtain ⟨ha, hrest⟩ := List.forall_mem_cons.mp h
      rw [List.map_cons, Document.ofItems, Decoder.items, ha origin, ih hrest]
      rfl
  simp only [Decoder.list, Document.ofJson, hitems]
  rfl

/-- Null is read as nothing. -/
theorem optional_null (decode : Decoder α) : (Decoder.optional decode).Reads .null none :=
  fun _ ↦ rfl

/-- What is not null is read as what it stands for. -/
theorem optional_some {j : Json} {a : α} (hj : j ≠ .null) (h : decode.Reads j a) :
    (Decoder.optional decode).Reads j (some a) := by
  intro origin
  have hread := h origin
  cases j with
  | null => exact absurd rfl hj
  | bool _ | number _ | string _ | array _ | object _ =>
    simp only [Document.ofJson] at hread
    simp only [Decoder.optional, Document.ofJson, hread]
    rfl

/-- Items that are each read as themselves are read as themselves together. -/
theorem list_self {write : α → Json} {as : List α} (h : ∀ a ∈ as, decode.Reads (write a) a) :
    (Decoder.list decode).Reads (.array (as.map write)) as := by
  have hread : (Decoder.list decode).Reads (.array (as.map write)) (as.map id) := list h
  rwa [List.map_id] at hread

/-- An optional value that is written as null when it is absent is read as itself. -/
theorem ofOption {write : α → Json} {o : Option α}
    (h : ∀ a, o = some a → write a ≠ .null ∧ decode.Reads (write a) a) :
    (Decoder.optional decode).Reads (.ofOption write o) o := by
  cases o with
  | none => exact optional_null decode
  | some a => exact optional_some (h a rfl).1 (h a rfl).2

end Reads

end Decoder

/-! ### Records -/

namespace Field

/-- Every spelling of a field. -/
def spellings (f : Field) : List String := f.name :: f.aliases

/-- The field lets pass what is written for it under its name, if anything is. -/
def Accepts (f : Field) (slot : String × Option Json) : Prop :=
  f.name = slot.1 ∧ ∀ j, slot.2 = some j → ∀ origin, f.check origin (.ofJson j) = .ok ()

/-- A field answers to its spellings. -/
theorem answersTo_iff (f : Field) (key : String) : f.answersTo key = true ↔ key ∈ f.spellings := by
  rw [answersTo, spellings, Bool.or_eq_true, beq_iff_eq, List.contains_iff_mem, List.mem_cons,
    eq_comm]

/-- A field lets pass what its decoder reads. -/
theorem accepts_of_reads {decode : Decoder α} {name : String} {aliases : List String} {j : Json}
    {a : α} (h : decode.Reads j a) : (Field.of name decode aliases).Accepts (name, some j) := by
  refine ⟨rfl, ?_⟩
  rintro _ ⟨⟩ origin
  change (decode origin (.ofJson j)).map _ = _
  rw [h origin]
  rfl

/-- A field that may be absent lets pass what its decoder reads, if anything is written. -/
theorem accepts_map_of_reads {decode : Decoder α} {name : String} {aliases : List String}
    {write : α → Json} {o : Option α}
    (h : ∀ a, o = some a → write a ≠ .null ∧ decode.Reads (write a) a) :
    (Field.optional name decode aliases).Accepts (name, o.map write) := by
  cases o with
  | none => exact ⟨rfl, fun j hj ↦ by cases hj⟩
  | some a => exact accepts_of_reads (.optional_some (h a rfl).1 (h a rfl).2)

/-- Where no two fields share a spelling, the name of a field finds the field. -/
theorem find?_answersTo {fields : List Field} (hspell : (fields.flatMap spellings).Nodup)
    {f : Field} (hf : f ∈ fields) : fields.find? (·.answersTo f.name) = some f := by
  induction fields with
  | nil => cases hf
  | cons first rest ih =>
    rw [List.flatMap_cons] at hspell
    obtain ⟨-, hrest, hdisjoint⟩ := List.nodup_append.mp hspell
    have hown : f.name ∈ f.spellings := List.mem_cons_self
    rcases List.mem_cons.mp hf with rfl | hf
    · exact List.find?_cons_of_pos ((answersTo_iff _ _).mpr hown)
    · have hlater : f.name ∈ rest.flatMap spellings := List.mem_flatMap.mpr ⟨f, hf, hown⟩
      rw [List.find?_cons_of_neg, ih hrest hf]
      rw [answersTo_iff]
      exact fun h ↦ hdisjoint _ h _ hlater rfl

/-- Where no two fields share a spelling, no two have one name. -/
theorem nodup_names {fields : List Field} (hspell : (fields.flatMap spellings).Nodup) :
    (fields.map name).Nodup := by
  induction fields with
  | nil => exact .nil
  | cons first rest ih =>
    rw [List.flatMap_cons] at hspell
    obtain ⟨-, hrest, hdisjoint⟩ := List.nodup_append.mp hspell
    refine List.nodup_cons.mpr ⟨fun h ↦ ?_, ih hrest⟩
    obtain ⟨f, hf, hname⟩ := List.mem_map.mp h
    exact hdisjoint first.name List.mem_cons_self f.name
      (List.mem_flatMap.mpr ⟨f, hf, List.mem_cons_self⟩) hname.symm

private theorem map_fst_of_accepts {fields : List Field} {slots : List (String × Option Json)}
    (h : List.Forall₂ Accepts fields slots) : slots.map Prod.fst = fields.map name := by
  induction h with
  | nil => rfl
  | cons hfirst _ ih => rw [List.map_cons, List.map_cons, ih, hfirst.1]

/-- Every entry of what fields let pass is let pass by one of them. -/
theorem exists_of_accepts {fields : List Field} {slots : List (String × Option Json)}
    (h : List.Forall₂ Accepts fields slots) {e : String × Json} (he : e ∈ presentEntries slots)
    (origin : Origin) : ∃ f ∈ fields, f.name = e.1 ∧ f.check origin (.ofJson e.2) = .ok () := by
  induction h with
  | nil => cases he
  | @cons f slot fields slots hfirst _ ih =>
    have hsplit : (∃ j, slot.2 = some j ∧ (slot.1, j) = e) ∨ e ∈ presentEntries slots := by
      obtain ⟨key, value⟩ := slot
      cases value with
      | none => exact .inr he
      | some j => exact (List.mem_cons.mp he).imp_left fun h ↦ ⟨j, rfl, h.symm⟩
    rcases hsplit with ⟨j, hj, rfl⟩ | he
    · exact ⟨f, List.mem_cons_self, hfirst.1, hfirst.2 j hj origin⟩
    · obtain ⟨g, hg, hpass⟩ := ih he
      exact ⟨g, List.mem_cons_of_mem _ hg, hpass⟩

end Field

namespace Json

private theorem lookup_map_ofJson (key : String) (entries : List (String × Json)) :
    (entries.map fun e ↦ (e.1, Document.ofJson e.2)).lookup key =
      (entries.lookup key).map Document.ofJson := by
  induction entries with
  | nil => rfl
  | cons e rest ih =>
    obtain ⟨k, j⟩ := e
    by_cases h : key = k
    · subst h
      rw [List.map_cons, List.lookup_cons_self, List.lookup_cons_self, Option.map_some]
    · rw [List.map_cons, lookup_cons_of_ne h, lookup_cons_of_ne h, ih]

/-- Values are changed where they are present. -/
theorem map_presentEntries (f : Json → Json) (slots : List (String × Option Json)) :
    (presentEntries slots).map (fun e ↦ (e.1, f e.2)) =
      presentEntries (slots.map fun slot ↦ (slot.1, slot.2.map f)) := by
  induction slots with
  | nil => rfl
  | cons slot rest ih =>
    obtain ⟨key, value⟩ := slot
    cases value with
    | none => exact ih
    | some j => exact congrArg ((key, f j) :: ·) ih

/-- Present entries are kept when their slots are. -/
theorem filter_presentEntries (keep : String → Bool) (slots : List (String × Option Json)) :
    (presentEntries slots).filter (fun e ↦ keep e.1) =
      presentEntries (slots.filter fun slot ↦ keep slot.1) := by
  induction slots with
  | nil => rfl
  | cons slot rest ih =>
    obtain ⟨key, value⟩ := slot
    rw [List.filter_cons]
    cases value with
    | none =>
      split
      · exact ih
      · exact ih
    | some j =>
      have hfirst : presentEntries ((key, some j) :: rest) = (key, j) :: presentEntries rest := rfl
      rw [hfirst, List.filter_cons, ih]
      split
      · rfl
      · rfl

private theorem nodup_keys_presentEntries {slots : List (String × Option Json)}
    (h : (slots.map Prod.fst).Nodup) : ((presentEntries slots).map Prod.fst).Nodup := by
  have hsub : ((presentEntries slots).map Prod.fst).Sublist (slots.map Prod.fst) := by
    clear h
    induction slots with
    | nil => exact .slnil
    | cons slot rest ih =>
      obtain ⟨key, value⟩ := slot
      cases value with
      | none => exact ih.cons key
      | some j => exact ih.cons_cons key
  exact hsub.nodup h

/-- Under a name stands what is written for it. -/
theorem valuesAt_presentEntries {slots : List (String × Option Json)}
    (h : (slots.map Prod.fst).Nodup) (name : String) :
    valuesAt name (presentEntries slots) = (slots.lookup name).join.toList := by
  induction slots with
  | nil => rfl
  | cons slot rest ih =>
    obtain ⟨key, value⟩ := slot
    obtain ⟨hkey, hrest⟩ := List.nodup_cons.mp h
    have hlater := ih hrest
    by_cases hname : key = name
    · subst hname
      rw [lookup_eq_none_of_notMem hkey] at hlater
      rw [List.lookup_cons_self]
      cases value with
      | none => exact hlater
      | some j => exact (valuesAt_cons_self key j _).trans (congrArg (j :: ·) hlater)
    · rw [lookup_cons_of_ne (Ne.symm hname), ← hlater]
      cases value with
      | none => rfl
      | some j => exact valuesAt_cons_of_ne hname j _

end Json

/-- The fields hold the documents of what is written for them. -/
def Fields.Hold (fs : Fields) (slots : List (String × Option Json)) : Prop :=
  ∀ name, fs.present.lookup name = (slots.lookup name).join.map Document.ofJson

/-- Entries in any order hold what is written for the fields. -/
theorem Fields.hold_of_perm {slots : List (String × Option Json)}
    (hslots : (slots.map Prod.fst).Nodup) {entries : List (String × Json)}
    (hentries : entries.Perm (presentEntries slots)) (missing : String → DecodeError) :
    Fields.Hold ⟨entries.map fun e ↦ (e.1, .ofJson e.2), missing⟩ slots := by
  intro name
  -- At most one value stands under a name, so no order can tell two of them apart.
  have hvalues : Json.valuesAt name entries = (slots.lookup name).join.toList := by
    have hperm := Json.perm_valuesAt name hentries
    rw [Json.valuesAt_presentEntries hslots] at hperm
    cases hj : (slots.lookup name).join with
    | none =>
      rw [hj] at hperm
      exact hperm.eq_nil
    | some j =>
      rw [hj] at hperm
      exact hperm.eq_singleton
  rw [Json.lookup_map_ofJson, Json.lookup_eq_head?_valuesAt, hvalues, Option.head?_toList]

namespace Shape

/-- No two fields of the shape share a spelling. -/
def Unambiguous (s : Shape) : Prop := (s.fields.flatMap Field.spellings).Nodup

instance (s : Shape) : Decidable s.Unambiguous :=
  inferInstanceAs (Decidable (s.fields.flatMap Field.spellings).Nodup)

/-- Entries that fields let pass, with a key for each, are gathered as they stand. -/
theorem gatherEntries_ofEntries {fields : List Field}
    (hspell : (fields.flatMap Field.spellings).Nodup) (origin : Origin)
    (present : List (String × Document)) (entries : List (String × Json))
    (hkeys : (present.map Prod.fst ++ entries.map Prod.fst).Nodup)
    (haccepts : ∀ e ∈ entries,
      ∃ f ∈ fields, f.name = e.1 ∧ f.check origin (.ofJson e.2) = .ok ()) :
    gatherEntries fields origin present (Document.ofEntries entries) =
      .ok (present ++ entries.map fun e ↦ (e.1, .ofJson e.2)) := by
  induction entries generalizing present with
  | nil => rw [Document.ofEntries, gatherEntries, List.map_nil, List.append_nil]
  | cons e rest ih =>
    obtain ⟨⟨f, hf, hname, hcheck⟩, hrest⟩ := List.forall_mem_cons.mp haccepts
    have hfind := Field.find?_answersTo hspell hf
    rw [hname] at hfind
    have habsent : present.lookup e.1 = none := by
      apply Json.lookup_eq_none_of_notMem
      intro hmem
      exact (List.nodup_append.mp hkeys).2.2 e.1 hmem e.1 List.mem_cons_self rfl
    have hnext := ih (present ++ [(e.1, .ofJson e.2)]) (by simpa using hkeys) hrest
    simp only [Document.ofEntries, gatherEntries, hfind, hname, habsent, Option.isSome_none, hcheck]
    refine hnext.trans ?_
    rw [List.append_assoc, List.singleton_append, List.map_cons]

/-- An object with the entries of a record in any order is gathered into the fields of the
record. -/
theorem gather_of_perm {s : Shape} (hs : s.Unambiguous) {slots : List (String × Option Json)}
    (h : List.Forall₂ Field.Accepts s.fields slots) {entries : List (String × Json)}
    (hentries : entries.Perm (presentEntries slots)) (origin : Origin) :
    ∃ fs, s.gather origin (.ofJson (.object entries)) = .ok fs ∧ fs.Hold slots := by
  have hdistinct : (slots.map Prod.fst).Nodup :=
    Field.map_fst_of_accepts h ▸ Field.nodup_names hs
  have hkeys : (entries.map Prod.fst).Nodup :=
    (hentries.map Prod.fst).symm.nodup (Json.nodup_keys_presentEntries hdistinct)
  have hgathered := gatherEntries_ofEntries hs origin [] entries hkeys
    fun e he ↦ Field.exists_of_accepts h (hentries.mem_iff.mp he) origin
  refine ⟨_, ?_, Fields.hold_of_perm hdistinct hentries .missingField⟩
  rw [Document.ofJson, gather, hgathered]
  rfl

/-- A record that is written from its fields is gathered into these fields. -/
theorem gather_record {s : Shape} (hs : s.Unambiguous) {slots : List (String × Option Json)}
    (h : List.Forall₂ Field.Accepts s.fields slots) (origin : Origin) :
    ∃ fs, s.gather origin (.ofJson (.record (presentEntries slots))) = .ok fs ∧ fs.Hold slots := by
  have hdistinct : (slots.map Prod.fst).Nodup :=
    Field.map_fst_of_accepts h ▸ Field.nodup_names hs
  have hperm := Json.perm_sortEntries (Json.nodup_keys_presentEntries hdistinct)
  exact gather_of_perm hs h hperm origin

end Shape

namespace Fields.Hold

variable {fs : Fields} {slots : List (String × Option Json)} {decode : Decoder α} {name : String}

/-- A field that must be present is read as what was written for it. -/
theorem required (h : fs.Hold slots) {j : Json} {a : α} (hj : slots.lookup name = some (some j))
    (hr : decode.Reads j a) (origin : Origin) : fs.required origin name decode = .ok a := by
  have hd := h name
  rw [hj] at hd
  simp only [Fields.required, hd, Option.join_some, Option.map_some]
  exact hr origin

/-- A field with a default is read as what was written for it. -/
theorem withDefault (h : fs.Hold slots) {j : Json} {a : α}
    (hj : slots.lookup name = some (some j)) (hr : decode.Reads j a) (origin : Origin)
    (default : α) : fs.withDefault origin name default decode = .ok a := by
  have hd := h name
  rw [hj] at hd
  simp only [Fields.withDefault, hd, Option.join_some, Option.map_some]
  exact hr origin

/-- A field for which nothing was written has its default. -/
theorem withDefault_absent (h : fs.Hold slots) (hj : slots.lookup name = some none)
    (origin : Origin) (default : α) : fs.withDefault origin name default decode = .ok default := by
  have hd := h name
  rw [hj] at hd
  simp only [Fields.withDefault, hd, Option.join_some, Option.map_none]

/-- A field that may be null is read as what was written for it. -/
theorem optional (h : fs.Hold slots) {j : Json} {o : Option α}
    (hj : slots.lookup name = some (some j)) (hr : (Decoder.optional decode).Reads j o)
    (origin : Origin) : fs.optional origin name decode = .ok o :=
  h.withDefault hj hr origin none

/-- A field that is left out when it is absent is read as what was written for it. -/
theorem optional_map (h : fs.Hold slots) {write : α → Json} {o : Option α}
    (hj : slots.lookup name = some (o.map write))
    (hr : ∀ a, o = some a → write a ≠ .null ∧ decode.Reads (write a) a) (origin : Origin) :
    fs.optional origin name decode = .ok o := by
  cases o with
  | none => exact h.withDefault_absent hj origin none
  | some a => exact h.withDefault hj (.optional_some (hr a rfl).1 (hr a rfl).2) origin none

end Fields.Hold

/-! ### What decoders yield -/

namespace Decoder

variable {sort : α → Prop} {decode : Decoder α} {origin : Origin}

/-- A refusal yields nothing. -/
theorem yieldsOnly_mismatch (expected : String) (d : Document) :
    YieldsOnly sort (mismatch expected d) :=
  fun a h ↦ absurd h (mismatch_ne_ok expected d a)

/-- An integer between two bounds. -/
theorem yieldsOnly_integer (low high : Int) (expected : String) (d : Document) :
    YieldsOnly (fun i ↦ low ≤ i ∧ i ≤ high) (integer low high expected origin d) := by
  unfold integer
  split
  · split
    · split
      · next h => exact .ok h
      · exact .error _
    · exact yieldsOnly_mismatch _ _
  · exact yieldsOnly_mismatch _ _

/-- Any value that is read has sorted keys, and it is null only where null stands. -/
theorem yieldsOnly_json {d : Document} (hd : d ≠ .null) :
    YieldsOnly (fun j ↦ j.SortedKeys ∧ j ≠ .null) (json origin d) := by
  unfold json
  split
  · next j hj =>
    refine .ok ⟨Document.sortedKeys_of_toJson? hj, ?_⟩
    rintro rfl
    exact hd (Document.eq_null_of_toJson? hj)
  · exact .error _

/-- The items of a sequence. -/
theorem yieldsOnly_list (h : ∀ d, YieldsOnly sort (decode origin d)) (d : Document) :
    YieldsOnly (fun as ↦ ∀ a ∈ as, sort a) (list decode origin d) := by
  have hitems (ds : List Document) :
      YieldsOnly (fun as ↦ ∀ a ∈ as, sort a) (items decode origin ds) := by
    induction ds with
    | nil => exact .ok fun a ha ↦ absurd ha List.not_mem_nil
    | cons d ds ih =>
      refine .bind (h d) fun a ha ↦ .bind ih fun as has ↦ .ok ?_
      exact List.forall_mem_cons.mpr ⟨ha, has⟩
  unfold list
  split
  · refine .bind (hitems _) fun as has ↦ ?_
    split
    · exact .ok has
    · exact .error _
  · exact .error _
  · exact yieldsOnly_mismatch _ _

end Decoder

namespace Fields

variable {sort : α → Prop} {decode : Decoder α} {origin : Origin}

/-- What is read for a field that must be present. -/
theorem yieldsOnly_required (fs : Fields) (name : String)
    (h : ∀ d, YieldsOnly sort (decode origin d)) :
    YieldsOnly sort (fs.required origin name decode) := by
  unfold Fields.required
  split
  · exact h _
  · exact .error _

/-- What is read for a field that may be absent or null. -/
theorem yieldsOnly_optional (fs : Fields) (name : String)
    (h : ∀ d, d ≠ .null → YieldsOnly sort (decode origin d)) :
    YieldsOnly (fun o ↦ ∀ a, o = some a → sort a) (fs.optional origin name decode) := by
  have hnone : ∀ a, none = some a → sort a := by
    rintro a ⟨⟩
  unfold Fields.optional Fields.withDefault Decoder.optional
  split
  · split
    · exact .ok hnone
    · next hd =>
      refine .map (h _ hd) ?_
      rintro a ha _ ⟨⟩
      exact ha
  · exact .ok hnone

end Fields

end Certification
