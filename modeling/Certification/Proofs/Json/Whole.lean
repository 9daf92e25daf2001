import Certification.Json.Record
import Certification.Proofs.Chain

/-!
# Decoders that read whole documents

A decoder of a text works while the text is read, so it can only succeed after it has passed every
place of its document: the parts that it wants, which it decodes, and the parts that it does not
want, which it passes over. A document that decodes is thus one that may be passed over, with every
array and object closed and JSON everywhere in between.
-/

namespace Certification

variable {α : Type}

namespace Decoder

/-- Of a text the decoder reads only documents in which nothing stops being JSON. -/
def ReadsWhole (decode : Decoder α) : Prop :=
  ∀ d a, decode .text d = .ok a → d.skippable = true

/-- A string is read whole. -/
theorem readsWhole_string : string.ReadsWhole := by
  intro d a h
  unfold string at h
  split at h
  · rfl
  · exact absurd h (mismatch_ne_ok _ _ _)

private theorem readsWhole_integer (low high : Int) (expected : String) :
    (integer low high expected).ReadsWhole := by
  intro d a h
  unfold integer at h
  split at h
  · rfl
  · exact absurd h (mismatch_ne_ok _ _ _)

private theorem ReadsWhole.map {β : Type} {decode : Decoder α} (h : decode.ReadsWhole) (f : α → β) :
    ReadsWhole fun origin d ↦ (decode origin d).map f := by
  intro d b hb
  cases ha : decode .text d with
  | error e =>
    have hfails : Except.map f (decode .text d) = .ok b := hb
    rw [ha] at hfails
    cases hfails
  | ok a => exact h d a ha

/-- A natural number is read whole. -/
theorem readsWhole_nat32 : nat32.ReadsWhole := (readsWhole_integer _ _ _).map Int.toNat

/-- Null is whole, and everything else is read as if it had to be there. -/
theorem ReadsWhole.optional {decode : Decoder α} (h : decode.ReadsWhole) :
    (Decoder.optional decode).ReadsWhole := by
  intro d o ho
  unfold Decoder.optional at ho
  split at ho
  · rfl
  · exact h.map some d o ho

end Decoder

namespace Field

/-- Of a text the field lets pass only documents in which nothing stops being JSON. -/
def PassesWhole (f : Field) : Prop := ∀ d, f.check .text d = .ok () → d.skippable = true

/-- A field passes what its decoder reads. -/
theorem passesWhole_of {decode : Decoder α} (h : decode.ReadsWhole) (name : String)
    (aliases : List String) : (Field.of name decode aliases).PassesWhole :=
  fun d hd ↦ h.map (fun _ ↦ ()) d () hd

end Field

namespace Shape

/-- Entries that are gathered are whole: the fields among them were decoded, and the others passed
over. -/
theorem skippableEntries_of_gatherEntries {fields : List Field}
    (hfields : ∀ f ∈ fields, f.PassesWhole) {present gathered : List (String × Document)}
    {entries : List (Option String × Document)}
    (h : gatherEntries fields .text present entries = .ok gathered) :
    Document.skippableEntries entries = true := by
  induction entries generalizing present with
  | nil => rfl
  | cons e rest ih =>
    obtain ⟨key, d⟩ := e
    cases key with
    | none => cases h
    | some key =>
      rw [Document.skippableEntries, Bool.and_eq_true]
      rw [gatherEntries] at h
      split at h
      · split at h
        · next hd => exact ⟨hd, ih h⟩
        · cases h
      · next field hfind =>
        split at h
        · cases h
        · obtain ⟨_, hcheck, hrest⟩ := bind_eq_ok_iff.mp h
          exact ⟨hfields field (List.mem_of_find?_eq_some hfind) d hcheck, ih hrest⟩

/-- Items that are gathered are whole when none is left over. -/
theorem skippableItems_of_gatherItems {fields : List Field}
    (hfields : ∀ f ∈ fields, f.PassesWhole) {items : List Document}
    {gathered : List (String × Document)}
    (h : gatherItems .text fields items = .ok (gathered, 0)) :
    Document.skippableItems items = true := by
  induction items generalizing fields gathered with
  | nil => rfl
  | cons d rest ih =>
    cases fields with
    | nil => cases h
    | cons field fields =>
      obtain ⟨hfield, hmore⟩ := List.forall_mem_cons.mp hfields
      rw [gatherItems] at h
      obtain ⟨_, hcheck, h⟩ := bind_eq_ok_iff.mp h
      obtain ⟨⟨names, surplus⟩, hrest, h⟩ := bind_eq_ok_iff.mp h
      obtain rfl : surplus = 0 := by
        cases h
        rfl
      rw [Document.skippableItems, hfield d hcheck, ih hmore hrest, Bool.and_self]

/-- A document of a text that is gathered as a record is whole. -/
theorem skippable_of_gather {s : Shape} (hs : ∀ f ∈ s.fields, f.PassesWhole) {d : Document}
    {fs : Fields} (h : s.gather .text d = .ok fs) : d.skippable = true := by
  unfold gather at h
  split at h
  · next entries closed =>
    obtain ⟨present, hpresent, h⟩ := bind_eq_ok_iff.mp h
    cases closed with
    | false => cases h
    | true => exact skippableEntries_of_gatherEntries hs hpresent
  · next items closed =>
    obtain ⟨⟨gathered, surplus⟩, hgathered, h⟩ := bind_eq_ok_iff.mp h
    cases closed with
    | false => cases h
    | true =>
      cases surplus with
      | zero => exact skippableItems_of_gatherItems hs hgathered
      | succ n => cases h
  · cases h
  · cases h
  · exact absurd h (Decoder.mismatch_ne_ok _ _ _)

end Shape

end Certification
