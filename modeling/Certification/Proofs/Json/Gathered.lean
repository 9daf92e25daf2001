import Certification.Proofs.Chain
import Certification.Proofs.Json.Codec

/-!
# What was gathered

How a record that was read goes back to its document. A sequence is decoded item by item, each one
on its own; and a field with a single spelling holds what stands in the document under that name, or
at its place when the document is an array.
-/

namespace Certification

variable {α : Type}

namespace Decoder

variable {decode : Decoder α} {origin : Origin}

/-- Items are decoded when each of them is. -/
theorem items_eq_ok_iff {ds : List Document} {as : List α} :
    items decode origin ds = .ok as ↔ List.Forall₂ (fun d a ↦ decode origin d = .ok a) ds as := by
  induction ds generalizing as with
  | nil =>
    rw [items, List.forall₂_nil_left_iff, Except.ok.injEq]
    exact eq_comm
  | cons d ds ih =>
    rw [items, List.forall₂_cons_left_iff]
    simp only [bind_eq_ok_iff, ih]
    constructor
    · rintro ⟨a, ha, rest, hrest, h⟩
      cases h
      exact ⟨a, rest, ha, hrest, rfl⟩
    · rintro ⟨a, rest, ha, hrest, rfl⟩
      exact ⟨a, ha, rest, hrest, rfl⟩

/-- Only an array is decoded as a sequence, and its items are decoded one by one. -/
theorem exists_array_of_list {d : Document} {as : List α} (h : list decode origin d = .ok as) :
    ∃ ds, d = .array ds true ∧ List.Forall₂ (fun d a ↦ decode origin d = .ok a) ds as := by
  unfold list at h
  split at h
  · next ds closed =>
    obtain ⟨as', has, h⟩ := bind_eq_ok_iff.mp h
    cases closed with
    | false => cases h
    | true =>
      cases h
      exact ⟨ds, rfl, items_eq_ok_iff.mp has⟩
  · cases h
  · exact absurd h (mismatch_ne_ok _ _ _)

end Decoder

private theorem Field.name_ne_of_find? {fields : List Field}
    (hspell : (fields.flatMap spellings).Nodup)
    {f field : Field} (hf : f ∈ fields) (haliases : f.aliases = []) {key : String}
    (hfield : fields.find? (·.answersTo key) = some field) (hkey : f.name ≠ key) :
    f.name ≠ field.name := by
  intro hname
  have hself := find?_answersTo hspell (List.mem_of_find?_eq_some hfield)
  rw [← hname, find?_answersTo hspell hf] at hself
  cases hself
  have hanswers := List.find?_some hfield
  rw [answersTo_iff, spellings, haliases, List.mem_singleton] at hanswers
  exact hkey hanswers.symm

namespace Shape

variable {fields : List Field} {f : Field} {origin : Origin}

/-- From entries a field with one spelling gathers what stands under its name. -/
theorem lookup_gatherEntries (hspell : (fields.flatMap Field.spellings).Nodup) (hf : f ∈ fields)
    (haliases : f.aliases = []) {present gathered : List (String × Document)}
    {entries : List (Option String × Document)}
    (h : gatherEntries fields origin present entries = .ok gathered) :
    gathered.lookup f.name = (present.lookup f.name).or (entries.lookup (some f.name)) := by
  induction entries generalizing present with
  | nil =>
    cases h
    exact Option.or_none.symm
  | cons e rest ih =>
    obtain ⟨key, d⟩ := e
    cases key with
    | none => cases h
    | some key =>
      have hfound := Field.find?_answersTo hspell hf
      simp only [gatherEntries] at h
      split at h
      · next hunknown =>
        split at h
        · have hkey : f.name ≠ key := by
            rintro rfl
            rw [hunknown] at hfound
            cases hfound
          rw [ih h, List.lookup_cons, beq_eq_false_iff_ne.mpr (mt Option.some.inj hkey)]
        · cases h
      · next field hfield =>
        split at h
        · cases h
        · next habsent =>
          obtain ⟨-, -, h⟩ := bind_eq_ok_iff.mp h
          rw [ih h, List.lookup_append]
          by_cases hkey : f.name = key
          · subst hkey
            obtain rfl : f = field := Option.some.inj (hfound.symm.trans hfield)
            have hnone : present.lookup f.name = none := Option.not_isSome_iff_eq_none.mp habsent
            simp [hnone]
          · have hname := Field.name_ne_of_find? hspell hf haliases hfield hkey
            rw [List.lookup_cons, beq_eq_false_iff_ne.mpr hname, List.lookup_cons,
              beq_eq_false_iff_ne.mpr (mt Option.some.inj hkey), List.lookup_nil, Option.or_none]

/-- From items a field gathers what stands at its place. -/
theorem lookup_gatherItems (hnames : (fields.map Field.name).Nodup) {place : Nat}
    (hf : fields[place]? = some f) {ds : List Document} {r : List (String × Document) × Nat}
    (h : gatherItems origin fields ds = .ok r) : r.1.lookup f.name = ds[place]? := by
  induction fields generalizing place ds r with
  | nil => cases hf
  | cons first fields ih =>
    cases ds with
    | nil =>
      cases h
      rfl
    | cons d ds =>
      simp only [gatherItems] at h
      obtain ⟨-, -, h⟩ := bind_eq_ok_iff.mp h
      obtain ⟨rest, hrest, h⟩ := bind_eq_ok_iff.mp h
      cases h
      rw [List.map_cons, List.nodup_cons] at hnames
      cases place with
      | zero =>
        cases hf
        exact List.lookup_cons_self
      | succ place =>
        have hmem : f ∈ fields := List.mem_of_getElem? hf
        have hne : f.name ≠ first.name := fun heq ↦ hnames.1 (heq ▸ List.mem_map_of_mem hmem)
        rw [Json.lookup_cons_of_ne hne, List.getElem?_cons_succ]
        exact ih hnames.2 hf hrest

/-- What stands in a document for a field: under its name, or at its place in an array. -/
def printed? (name : String) (place : Nat) : Document → Option Document
  | .object entries _ => entries.lookup (some name)
  | .array items _ => items[place]?
  | _ => none

/-- A field with one spelling holds what stands for it in the document. -/
theorem lookup_of_gather {s : Shape} (hs : s.Unambiguous) {place : Nat}
    (hf : s.fields[place]? = some f) (haliases : f.aliases = []) {d : Document} {fs : Fields}
    (h : s.gather origin d = .ok fs) : fs.present.lookup f.name = printed? f.name place d := by
  unfold gather at h
  split at h
  · next entries closed =>
    obtain ⟨present, hpresent, h⟩ := bind_eq_ok_iff.mp h
    cases closed with
    | false => cases h
    | true =>
      cases h
      exact lookup_gatherEntries hs (List.mem_of_getElem? hf) haliases hpresent
  · next items closed =>
    obtain ⟨r, hr, h⟩ := bind_eq_ok_iff.mp h
    split at h
    · cases h
    · split at h
      · cases h
      · cases h
        exact lookup_gatherItems (Field.nodup_names hs) hf hr
  · cases h
  · cases h
  · exact absurd h (Decoder.mismatch_ne_ok _ _ _)

end Shape

end Certification
