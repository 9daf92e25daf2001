import Certification.Proofs.Json.Kept
import Certification.Proofs.Workflow.Document

/-!
# The two names of the warnings

The warnings stand in a document under one of two names, and which one it is makes no difference. An
output is read off its printed entries by names and not by places, so it is also the output of the
value that a document holds; and exchanging the two names, in the document or in its value, changes
neither the one entry that is for the warnings nor any other.
-/

namespace Certification

namespace ParseStatus

/-- The other name of the warnings for either of their names, and every other key as it is. -/
def respell (key : String) : String :=
  if key = "warnings" then "__warnings" else if key = "__warnings" then "warnings" else key

/-- The entry under the respelled key. -/
def respellEntry (e : String × Json) : String × Json := (respell e.1, e.2)

private theorem isWarnings_respellEntry (e : String × Json) :
    isWarnings (respellEntry e) = isWarnings e := by
  obtain ⟨key, j⟩ := e
  by_cases hw : key = "warnings"
  · simp [isWarnings, respellEntry, respell, warningNames, hw]
  · by_cases hu : key = "__warnings"
    · simp [isWarnings, respellEntry, respell, warningNames, hu]
    · simp [isWarnings, respellEntry, respell, hw, hu]

private theorem respellEntry_of_not_isWarnings {e : String × Json} (h : isWarnings e = false) :
    respellEntry e = e := by
  obtain ⟨hw, hu⟩ : e.1 ≠ "warnings" ∧ e.1 ≠ "__warnings" := by
    simpa [isWarnings, warningNames] using h
  rw [respellEntry, respell, if_neg hw, if_neg hu]

/-- An entry is for the workflow exactly when the respelled one is. -/
theorem respell_eq_ast_iff (key : String) : respell key = "ast" ↔ key = "ast" := by
  unfold respell
  split
  · next h => simp [h]
  · split
    · next h => simp [h]
    · rfl

private theorem filter_map_respellEntry {keep : String × Json → Bool}
    (h : ∀ e, keep (respellEntry e) = keep e) (entries : List (String × Json)) :
    (entries.map respellEntry).filter keep = (entries.filter keep).map respellEntry := by
  rw [List.filter_map]
  congr 1
  exact List.filter_congr fun e _ ↦ h e

end ParseStatus

open ParseStatus (respell respellEntry)

/-- The document with the warnings under their other name. -/
def Document.respelled : Document → Document
  | .object entries closed => .object (entries.map fun e ↦ (e.1.map respell, e.2)) closed
  | d => d

/-- The value with the warnings under their other name. -/
def Json.respelled : Json → Json
  | .object entries => .record (entries.map respellEntry)
  | j => j

/-- Respelled entries are read as the entries that are respelled. -/
theorem Document.toEntries?_respelled {entries : List (Option String × Document)}
    {js : List (String × Json)} (h : toEntries? entries = some js) :
    toEntries? (entries.map fun e ↦ (e.1.map respell, e.2)) = some (js.map respellEntry) := by
  induction entries generalizing js with
  | nil =>
    cases h
    rfl
  | cons e rest ih =>
    obtain ⟨key, d⟩ := e
    obtain ⟨key, rfl, h⟩ := Option.bind_eq_some_iff.mp h
    obtain ⟨j, hj, h⟩ := Option.bind_eq_some_iff.mp h
    obtain ⟨js, hjs, h⟩ := Option.bind_eq_some_iff.mp h
    cases h
    simp [toEntries?, hj, ih hjs, respellEntry]

namespace ParseOutput

variable {output : ParseOutput} {entries : List (String × Json)}

namespace PrintedBy

/-- Respelled entries print the same output. -/
theorem respelled (h : output.PrintedBy entries) :
    output.PrintedBy (entries.map respellEntry) := by
  have hast : Json.valuesAt "ast" (entries.map respellEntry) = Json.valuesAt "ast" entries := by
    rw [Json.valuesAt, ParseStatus.filter_map_respellEntry, List.map_map]
    · rfl
    · intro e
      rw [respellEntry, decide_eq_decide]
      exact ParseStatus.respell_eq_ast_iff e.1
  have hwarnings := ParseStatus.filter_map_respellEntry ParseStatus.isWarnings_respellEntry entries
  have hothers : (entries.map respellEntry).filter
      (fun e ↦ decide (e.1 ≠ "ast") && !ParseStatus.isWarnings e) =
        entries.filter fun e ↦ decide (e.1 ≠ "ast") && !ParseStatus.isWarnings e := by
    rw [ParseStatus.filter_map_respellEntry]
    · conv_rhs => rw [← List.map_id (entries.filter _)]
      apply List.map_congr_left
      intro e he
      apply ParseStatus.respellEntry_of_not_isWarnings
      simpa using (Bool.and_eq_true_iff.mp (List.mem_filter.mp he).2).2
    · intro e
      have hiff : (respellEntry e).1 = "ast" ↔ e.1 = "ast" := ParseStatus.respell_eq_ast_iff e.1
      rw [ParseStatus.isWarnings_respellEntry, decide_eq_decide.mpr (not_congr hiff)]
  constructor
  · rw [hast]
    exact h.one_ast
  · rw [hwarnings, List.length_map]
    exact h.one_warnings
  · rw [hast]
    exact h.ast
  · rw [hwarnings, List.head?_map, Option.map_map]
    exact h.warnings
  · rw [hothers]
    exact h.extra

end PrintedBy

/-- A document with the warnings under their other name is read as the same output, and so is, from
wherever it comes, the value of the document with the warnings under their other name. -/
theorem decode_respelled {origin : Origin} {d : Document} (h : decode origin d = .ok output) :
    decode origin d.respelled = .ok output ∧
      ∀ document, d.toJson? = some document →
        ∀ origin', decode origin' (.ofJson document.respelled) = .ok output := by
  obtain ⟨entries, js, rfl, hjs, hprinted⟩ := decode_eq_ok_iff.mp h
  refine ⟨decode_eq_ok_iff.mpr
    ⟨_, _, rfl, Document.toEntries?_respelled hjs, hprinted.respelled⟩, ?_⟩
  intro document hvalue origin'
  have hrecord : (Document.object entries true).toJson? = some (Json.record js) := by
    simp [Document.toJson?, hjs]
  obtain rfl : Json.record js = document := Option.some.inj (hrecord.symm.trans hvalue)
  refine hprinted.sorted.respelled.decode_record ?_ origin'
  intro e he
  obtain ⟨e', he', rfl⟩ := List.mem_map.mp he
  exact Document.sortedKeys_of_toEntries? hjs e' (Json.mem_of_mem_sortEntries he')

end ParseOutput

end Certification
