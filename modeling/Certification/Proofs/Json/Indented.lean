import Certification.Proofs.Json.Arranged
import Certification.Proofs.Json.Printed

/-!
# Reading indented text

The indented form of a value is one of its layouts, so it is read back like the others. A text that
starts with it is a JSON document exactly when nothing but separators follows.
-/

namespace Certification

open Certification.Text

namespace Json

/-- A new line and spaces for each level before each part, and a space after a colon. -/
def Layout.spaced : Layout where
  gap := newLine
  colon := [' ']
  isSeparator_gap level c hc := by
    rcases List.mem_cons.mp hc with rfl | hspace
    · rfl
    · rw [List.eq_of_mem_replicate hspace]
      rfl
  isSeparator_colon := List.forall_mem_singleton.mpr rfl

namespace Layout

@[simp]
theorem gap_spaced (level : Nat) : spaced.gap level = newLine level := rfl

@[simp]
theorem colon_spaced : spaced.colon = [' '] := rfl

mutual

/-- The indented form is printed with these gaps. -/
theorem print_spaced (level : Nat) : (j : Json) → spaced.print level j = writeIndented level j
  | .null | .bool true | .bool false | .number _ | .string _ | .array [] | .object [] => by
    simp only [print, writeIndented]
  | .array (item :: items) => by
    simp [print, writeIndented, print_spaced _ item, printItems_spaced _ items]
  | .object ((key, value) :: entries) => by
    simp [print, writeIndented, print_spaced _ value, printEntries_spaced _ entries]

/-- So are the items after the first. -/
theorem printItems_spaced (level : Nat) :
    (items : List Json) → spaced.printItems level items = writeIndentedItems level items
  | [] => by simp only [printItems, writeIndentedItems]
  | item :: items => by
    simp [printItems, writeIndentedItems, print_spaced _ item, printItems_spaced _ items]

/-- So are the entries after the first. -/
theorem printEntries_spaced (level : Nat) :
    (entries : List (String × Json)) →
      spaced.printEntries level entries = writeIndentedEntries level entries
  | [] => by simp only [printEntries, writeIndentedEntries]
  | (key, value) :: entries => by
    simp [printEntries, writeIndentedEntries, print_spaced _ value, printEntries_spaced _ entries]

end

end Layout

end Json

namespace Reading

private theorem ofText_indented {depth : Nat} {j : Json} (h : j.Fits depth)
    (hdepth : depth ≤ Document.depthLimit) {rest : String}
    (hrest : Document.EndsNumber rest.toList) :
    ofText (j.indented ++ rest) = ⟨.ofJson j, rest.toList.all isSeparator⟩ := by
  have hprint := Document.readFirst_print .spaced h hdepth hrest
  rw [Json.Layout.print_spaced] at hprint
  rw [ofText, String.toList_append, Json.indented, String.toList_ofList, ofChars, hprint]

/-- A text that starts with the indented form of a value is a JSON document when nothing but
separators follows. -/
theorem toJson?_indented {depth : Nat} {j : Json} (h : j.Fits depth)
    (hdepth : depth ≤ Document.depthLimit) {rest : String}
    (hrest : Document.EndsNumber rest.toList) :
    (ofText (j.indented ++ rest)).toJson? =
      if rest.toList.all isSeparator = true then some j.canonical else none := by
  rw [ofText_indented h hdepth hrest, toJson?]
  split
  · exact Document.toJson?_ofJson_eq_canonical j
  · rfl

end Reading

end Certification
