import Certification.Proofs.Chain
import Certification.Proofs.Json.Kept
import Certification.Workflow.Codec

/-!
# What a parser printed

A document that decodes to a parser's output is one value: an object that holds the workflow under
`ast` and the warnings under one of their two names. `ParseOutput.PrintedBy` says which entries print
an output, and those that do are what decodes to it, in any order. `ParseOutput.ReadOff` reads the
output off the value alone, so that what was printed and what was understood can be compared.
-/

namespace Certification

private theorem toList_head?_of_length_le_one {α : Type} {as : List α} (h : as.length ≤ 1) :
    as.head?.toList = as := by
  cases as with
  | nil => rfl
  | cons a rest =>
    rw [List.length_cons] at h
    rw [List.eq_nil_of_length_eq_zero (l := rest) (by omega)]
    rfl

namespace ParseOutput

/-- Walking the entries of an object reads all of them as values: the one value under `ast`, if
there is one, and the other entries as they stand. -/
theorem gather_eq_ok_iff {ast : Option Json} {others : List (String × Json)}
    {entries : List (Option String × Document)} {r : Option Json × List (String × Json)} :
    gather ast others entries = .ok r ↔
      ∃ js, Document.toEntries? entries = some js ∧
        r.1.toList = ast.toList ++ Json.valuesAt "ast" js ∧
        r.2 = others ++ js.filter fun e ↦ e.1 ≠ "ast" := by
  constructor
  · intro h
    induction entries generalizing ast others with
    | nil =>
      simp only [gather, Except.ok.injEq] at h
      subst h
      exact ⟨[], rfl, by simp [Json.valuesAt], by simp⟩
    | cons e rest ih =>
      obtain ⟨key, d⟩ := e
      cases key with
      | none => simp [gather] at h
      | some key =>
        simp only [gather] at h
        split at h
        · cases h
        · next hdup =>
          cases hj : d.toJson? with
          | none => simp [hj] at h
          | some j =>
            simp only [hj] at h
            split at h
            · next hkey =>
              subst hkey
              have hast : ast = none := by simpa using hdup
              subst hast
              obtain ⟨js, hjs, hr1, hr2⟩ := ih h
              refine ⟨("ast", j) :: js, by simp [Document.toEntries?, hj, hjs], ?_, ?_⟩
              · rw [hr1, Json.valuesAt_cons_self]
                rfl
              · rw [hr2]
                simp
            · next hkey =>
              obtain ⟨js, hjs, hr1, hr2⟩ := ih h
              refine ⟨(key, j) :: js, by simp [Document.toEntries?, hj, hjs], ?_, ?_⟩
              · rw [hr1, Json.valuesAt_cons_of_ne hkey]
              · rw [hr2]
                simp [hkey]
  · rintro ⟨js, hjs, hr1, hr2⟩
    induction entries generalizing ast others js with
    | nil =>
      cases hjs
      have hast : r.1 = ast := by simpa [Json.valuesAt] using congrArg List.head? hr1
      have hothers : r.2 = others := by simpa using hr2
      rw [gather, ← hast, ← hothers]
    | cons e rest ih =>
      obtain ⟨key, d⟩ := e
      obtain ⟨key, rfl, hjs⟩ := Option.bind_eq_some_iff.mp hjs
      obtain ⟨j, hj, hjs⟩ := Option.bind_eq_some_iff.mp hjs
      obtain ⟨js, hrest, hjs⟩ := Option.bind_eq_some_iff.mp hjs
      cases hjs
      by_cases hkey : key = "ast"
      · subst hkey
        rw [Json.valuesAt_cons_self] at hr1
        -- There is at most one value for the workflow, so none was met before.
        have hast : ast = none := by
          cases ast with
          | none => rfl
          | some _ => cases hr : r.1 <;> simp [hr] at hr1
        subst hast
        simp only [gather, hj, if_true, Option.isSome_none, Bool.false_eq_true, and_false, if_false]
        exact ih js hrest hr1 (by simpa using hr2)
      · rw [Json.valuesAt_cons_of_ne hkey] at hr1
        simp only [gather, hj, hkey, false_and, if_false]
        exact ih js hrest hr1 (by simpa [hkey] using hr2)

end ParseOutput

namespace ParseStatus

/-- The value that was printed for the warnings, under one of their names. -/
def printedWarnings? (document : Json) : Option Json :=
  (document.get? "warnings").or (document.get? "__warnings")

/-- A status is read from entries that hold at most one value for the warnings. -/
theorem ofEntries_eq_ok_iff {entries : List (String × Json)} {status : ParseStatus} :
    ofEntries entries = .ok status ↔
      (entries.filter isWarnings).length ≤ 1 ∧
        status.warnings =
          ((entries.filter isWarnings).head?.map fun e ↦ warningsOf e.2).getD [] ∧
        status.extra = Json.sortEntries (entries.filter fun e ↦ !isWarnings e) := by
  obtain ⟨warnings, extra⟩ := status
  unfold ofEntries
  cases entries.filter isWarnings with
  | nil => simp [eq_comm]
  | cons e rest => cases rest <;> simp [eq_comm]

/-- When at most one entry is for the warnings, it holds the value that was printed for them. -/
theorem printedWarnings?_record {entries : List (String × Json)}
    (h : (entries.filter isWarnings).length ≤ 1) :
    printedWarnings? (Json.record entries) =
      (entries.filter isWarnings).head?.map Prod.snd := by
  have hname (name : String) (hn : name ∈ warningNames) :
      Json.valuesAt name entries = Json.valuesAt name (entries.filter isWarnings) := by
    refine (Json.valuesAt_filter ?_ entries).symm
    intro e he
    simpa [isWarnings, he] using hn
  rw [printedWarnings?, Json.get?_record, Json.get?_record, hname _ (by simp [warningNames]),
    hname _ (by simp [warningNames]), ← toList_head?_of_length_le_one h]
  cases hw : (entries.filter isWarnings).head? with
  | none => rfl
  | some e =>
    obtain ⟨key, value⟩ := e
    have hkey : key = "warnings" ∨ key = "__warnings" := by
      have he := (List.mem_filter.mp (List.mem_of_head? hw)).2
      simpa [isWarnings, warningNames] using he
    rcases hkey with rfl | rfl
    · simp [Json.valuesAt]
    · simp [Json.valuesAt]

end ParseStatus

namespace ParseOutput

/-- An output is read off a value: the workflow from what stands under `ast`, and the warnings from
what was printed for them. -/
structure ReadOff (output : ParseOutput) (document : Json) : Prop where
  ast : output.ast = ((document.get? "ast").map WorkflowAst.ofJson).getD .empty
  warnings : output.status.warnings =
    ((ParseStatus.printedWarnings? document).map ParseStatus.warningsOf).getD []

private theorem exists_object_of_decode {origin : Origin} {d : Document} {output : ParseOutput}
    (h : decode origin d = .ok output) : ∃ entries closed, d = .object entries closed := by
  unfold decode at h
  split at h
  · next entries closed => exact ⟨entries, closed, rfl⟩
  · cases h
  · exact absurd h (Decoder.mismatch_ne_ok _ _ _)

/-- Entries print an output: at most one of them is for the workflow and at most one for the
warnings, under either name, and the others are kept sorted. -/
structure PrintedBy (output : ParseOutput) (entries : List (String × Json)) : Prop where
  one_ast : (Json.valuesAt "ast" entries).length ≤ 1
  one_warnings : (entries.filter ParseStatus.isWarnings).length ≤ 1
  ast : output.ast = ((Json.valuesAt "ast" entries).head?.map WorkflowAst.ofJson).getD .empty
  warnings : output.status.warnings =
    ((entries.filter ParseStatus.isWarnings).head?.map fun e ↦
      ParseStatus.warningsOf e.2).getD []
  extra : output.status.extra =
    Json.sortEntries (entries.filter fun e ↦ decide (e.1 ≠ "ast") && !ParseStatus.isWarnings e)

/-- A document decodes when it is an object whose entries are values that print the output. -/
theorem decode_eq_ok_iff {origin : Origin} {d : Document} {output : ParseOutput} :
    decode origin d = .ok output ↔
      ∃ entries js, d = .object entries true ∧ Document.toEntries? entries = some js ∧
        output.PrintedBy js := by
  have hwarnings (js : List (String × Json)) :
      (js.filter fun e ↦ e.1 ≠ "ast").filter ParseStatus.isWarnings =
        js.filter ParseStatus.isWarnings := by
    rw [List.filter_filter]
    apply List.filter_congr
    intro e _
    by_cases he : e.1 = "ast"
    · simp [ParseStatus.isWarnings, ParseStatus.warningNames, he]
    · simp [he]
  have hextra (js : List (String × Json)) :
      (js.filter fun e ↦ e.1 ≠ "ast").filter (fun e ↦ !ParseStatus.isWarnings e) =
        js.filter fun e ↦ decide (e.1 ≠ "ast") && !ParseStatus.isWarnings e := by
    rw [List.filter_filter]
    exact List.filter_congr fun e _ ↦ Bool.and_comm _ _
  constructor
  · intro h
    obtain ⟨entries, closed, rfl⟩ := exists_object_of_decode h
    obtain ⟨r, hr, h⟩ := bind_eq_ok_iff.mp h
    obtain ⟨js, hjs, hast, hothers⟩ := gather_eq_ok_iff.mp hr
    rw [Option.toList_none, List.nil_append] at hast
    rw [List.nil_append] at hothers
    cases closed with
    | false => cases h
    | true =>
      obtain ⟨status, hstatus, h⟩ := bind_eq_ok_iff.mp h
      cases h
      obtain ⟨hone, hread, hkept⟩ := ParseStatus.ofEntries_eq_ok_iff.mp hstatus
      rw [hothers, hwarnings] at hone hread
      rw [hothers, hextra] at hkept
      refine ⟨entries, js, rfl, hjs, ⟨?_, hone, ?_, hread, hkept⟩⟩
      · rw [← hast]
        cases r.1 <;> simp
      · rw [← hast]
        cases r.1 <;> rfl
  · rintro ⟨entries, js, rfl, hjs, hprinted⟩
    have hgathered : gather none [] entries =
        .ok ((Json.valuesAt "ast" js).head?, js.filter fun e ↦ e.1 ≠ "ast") :=
      gather_eq_ok_iff.mpr ⟨js, hjs, toList_head?_of_length_le_one hprinted.one_ast, rfl⟩
    have hstatus : ParseStatus.ofEntries (js.filter fun e ↦ e.1 ≠ "ast") = .ok output.status := by
      rw [ParseStatus.ofEntries_eq_ok_iff, hwarnings, hextra]
      exact ⟨hprinted.one_warnings, hprinted.warnings, hprinted.extra⟩
    refine bind_eq_ok_iff.mpr ⟨_, hgathered, bind_eq_ok_iff.mpr ⟨_, hstatus, ?_⟩⟩
    rw [← hprinted.ast]
    rfl

namespace PrintedBy

variable {output : ParseOutput} {entries : List (String × Json)}

private theorem readOff (h : output.PrintedBy entries) : output.ReadOff (Json.record entries) := by
  constructor
  · rw [h.ast, Json.get?_record, ← toList_head?_of_length_le_one h.one_ast]
    cases (Json.valuesAt "ast" entries).head? <;> rfl
  · rw [h.warnings, ParseStatus.printedWarnings?_record h.one_warnings, Option.map_map]
    rfl

/-- The entries of the object that is made of entries print the same output. -/
theorem sorted (h : output.PrintedBy entries) : output.PrintedBy (Json.sortEntries entries) := by
  have hast := Json.valuesAt_sortEntries_of_length_le_one h.one_ast
  have hwarnings : (Json.sortEntries entries).filter ParseStatus.isWarnings =
      entries.filter ParseStatus.isWarnings :=
    calc (Json.sortEntries entries).filter ParseStatus.isWarnings
        = Json.sortEntries (entries.filter ParseStatus.isWarnings) :=
          Json.filter_sortEntries (fun key ↦ ParseStatus.warningNames.contains key) entries
      _ = entries.filter ParseStatus.isWarnings :=
          Json.sortEntries_of_length_le_one h.one_warnings
  have hothers := Json.filter_sortEntries
    (fun key ↦ decide (key ≠ "ast") && !ParseStatus.warningNames.contains key) entries
  constructor
  · rw [hast]
    exact h.one_ast
  · rw [hwarnings]
    exact h.one_warnings
  · rw [hast]
    exact h.ast
  · rw [hwarnings]
    exact h.warnings
  · rw [h.extra]
    exact ((Json.sortEntries_of_increasing (Json.increasing_sortEntries _)).symm).trans
      (congrArg Json.sortEntries hothers.symm)

/-- The object that is made of entries which print an output is read as the output. -/
theorem decode_record (h : output.PrintedBy entries) (hs : ∀ e ∈ entries, e.2.SortedKeys)
    (origin : Origin) : decode origin (.ofJson (.record entries)) = .ok output := by
  refine decode_eq_ok_iff.mpr ⟨_, Json.sortEntries entries, rfl, ?_, h.sorted⟩
  apply Document.toEntries?_ofEntries
  intro e he
  exact Document.toJson?_ofJson (hs e (Json.mem_of_mem_sortEntries he))

end PrintedBy

/-- A document that decodes is the object that is made of entries which print the output. -/
theorem exists_printedBy_of_decode {origin : Origin} {d : Document} {output : ParseOutput}
    (h : decode origin d = .ok output) :
    ∃ js, d.toJson? = some (Json.record js) ∧ output.PrintedBy js := by
  obtain ⟨entries, js, rfl, hjs, hprinted⟩ := decode_eq_ok_iff.mp h
  exact ⟨js, by simp [Document.toJson?, hjs], hprinted⟩

/-- A document that decodes is a value, and the output is read off that value. -/
theorem exists_toJson?_of_decode {origin : Origin} {d : Document} {output : ParseOutput}
    (h : decode origin d = .ok output) :
    ∃ document, d.toJson? = some document ∧ output.ReadOff document := by
  obtain ⟨js, hvalue, hprinted⟩ := exists_printedBy_of_decode h
  exact ⟨Json.record js, hvalue, hprinted.readOff⟩

end ParseOutput

end Certification
