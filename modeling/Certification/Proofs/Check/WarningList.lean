import Certification.Proofs.Assertion.Satisfied
import Certification.Proofs.Check.Workflow
import Certification.Proofs.Path.Display
import Certification.Proofs.Workflow.Respelled
import Certification.Proofs.Workflow.Tree

/-!
# The list of warnings

The warnings of a status are read from three sides: as a list whose length is compared, and in the
tree of the status under either of their names. All of them read the items that were printed, one
warning for each, also for an item that is no warning; so they agree on how many there are and on
their places. In the tree a warning stands as it was printed when it is a text or an object whose
message is a text or absent, and every other item reads as less than was printed.
-/

namespace Certification

namespace ParseWarning

/-- An item is a warning in full: a text, or an object whose message, if there is one, is a text. -/
def IsShown : Json → Prop
  | .string _ => True
  | .object entries => ∀ j, entries.lookup "message" = some j → j.isString = true
  | _ => False

/-- A warning stands in the tree as it was printed exactly when the item is a warning in full. -/
theorem tree_ofJson_eq_iff {item : Json} (h : item.SortedKeys) :
    (ofJson item).tree = item ↔ IsShown item := by
  cases h with
  | @object entries hi hs =>
    have hshown : IsShown (.object entries) ↔
        ∀ j, entries.lookup "message" = some j → j.isString = true := Iff.rfl
    rw [hshown]
    cases hm : entries.lookup "message" with
    | none => simp [ofJson, hm, tree, Json.eraseEntry_of_lookup_eq_none hi hm]
    | some j =>
      cases j with
      | null =>
        -- Read as absent, a message that is null is missing from the tree.
        have hne : Json.eraseEntry "message" entries ≠ entries := by
          intro heq
          have hlookup := Json.lookup_eraseEntry "message" "message" entries
          rw [heq, hm, if_pos rfl] at hlookup
          cases hlookup
        simp [ofJson, hm, tree, hne, Json.isString, Json.string?]
      | string s =>
        simp [ofJson, hm, tree, Json.insertEntry_eraseEntry hi hm, Json.isString, Json.string?]
      | _ => simp [ofJson, hm, tree, empty, Json.isString, Json.string?]
  | _ => simp [ofJson, tree, empty, IsShown]

end ParseWarning

namespace ParseStatus

/-- The items that were printed for the warnings; there are none when no array was printed. -/
def printedItems (document : Json) : List Json :=
  ((printedWarnings? document).bind Json.array?).getD []

/-- The path to the number of warnings under one of their names. -/
def lengthPath (name : String) : Path := ⟨[.key name, Path.lengthStep]⟩

/-- The path to a warning under one of their names. -/
def itemPath (name : String) (i : Nat) : Path := ⟨[.key name, .index i]⟩

variable {s : ParseStatus} {name : String}

private theorem wellFormed_key (h : name ∈ warningNames) : (Segment.key name).WellFormed := by
  simp only [warningNames, List.mem_cons, List.not_mem_nil, or_false] at h
  rcases h with rfl | rfl
  · exact ⟨by decide, List.all_eq_true.mp (by decide)⟩
  · exact ⟨by decide, List.all_eq_true.mp (by decide)⟩

private theorem parse_lengthPath (h : name ∈ warningNames) :
    Path.parse (name ++ ".length") = .ok (lengthPath name) := by
  have hlength : Path.lengthStep.WellFormed := ⟨by decide, List.all_eq_true.mp (by decide)⟩
  have hwell : (lengthPath name).WellFormed :=
    List.forall_mem_cons.mpr ⟨wellFormed_key h, List.forall_mem_singleton.mpr hlength⟩
  exact hwell.parse_display

private theorem parse_itemPath (h : name ∈ warningNames) {i : Nat} (hi : i < Path.indexLimit) :
    Path.parse (name ++ "[" ++ toString i ++ "]") = .ok (itemPath name i) := by
  have hwell : (itemPath name i).WellFormed :=
    List.forall_mem_cons.mpr ⟨wellFormed_key h, List.forall_mem_singleton.mpr hi⟩
  have hdisplay : (itemPath name i).display = name ++ "[" ++ toString i ++ "]" := by
    simp [itemPath, Path.display, Path.displaySegments, Segment.display, String.append_assoc]
  rw [← hdisplay]
  exact hwell.parse_display

private theorem lookup_tree_of_mem_warningNames (h : name ∈ warningNames) (rest : List Segment) :
    Path.lookup ⟨.key name :: rest⟩ s.tree = Path.lookup ⟨rest⟩ s.warningsTree := by
  rw [Path.lookup, Path.follow_cons, s.tree_eq, Path.step_object, s.lookup_treeEntries, Segment.name,
    if_pos h]
  rfl

private theorem lookup_lengthPath (h : name ∈ warningNames) :
    (lengthPath name).lookup s.tree = some (.ofNat s.warnings.length) := by
  rw [lengthPath, lookup_tree_of_mem_warningNames h, Path.lookup]
  apply Path.follow_lengthStep
  simp [warningsTree, Json.length?]

private theorem lookup_itemPath (h : name ∈ warningNames) (i : Nat) :
    (itemPath name i).lookup s.tree = s.warnings[i]?.map ParseWarning.tree := by
  rw [itemPath, lookup_tree_of_mem_warningNames h, Path.lookup, Path.follow_cons, warningsTree]
  simp only [Path.step, Path.computedLength?, Path.child?, List.getElem?_map]
  exact Option.bind_fun_some _

/-- How a status shows the items that were printed for its warnings. -/
structure Shows (status : ParseStatus) (items : List Json) : Prop where
  /-- Their number is found in the tree under both names. -/
  length : ∀ name ∈ warningNames,
    (lengthPath name).lookup status.tree = some (.ofNat items.length)
  /-- Under both names, something is found at each of their positions and nowhere else. -/
  found : ∀ name ∈ warningNames, ∀ i,
    ((itemPath name i).lookup status.tree).isSome = true ↔ i < items.length
  /-- Both names lead to the same. -/
  same : ∀ i, (itemPath "warnings" i).lookup status.tree =
    (itemPath "__warnings" i).lookup status.tree
  /-- There are as many warnings as items, for an assertion that states their number and for one
  that states none. -/
  count : ∀ (ast : WorkflowAst) (a : Assertion), a.kind = AssertionKind.noParseWarnings.name →
    (a.IsSatisfied (.workflow ast status) ↔
      a.expected = none ∧ items.length = 0 ∨ a.expected.bind Json.nat? = some items.length)
  /-- An item that is a warning in full is found as it was printed, and no other item is. -/
  printed : ∀ name ∈ warningNames, ∀ i item, items[i]? = some item →
    ((itemPath name i).lookup status.tree = some item ↔ ParseWarning.IsShown item)

/-- A status that was read from items one by one shows them. -/
theorem shows_of_warnings_eq {items : List Json} (h : s.warnings = items.map ParseWarning.ofJson)
    (hs : ∀ item ∈ items, item.SortedKeys) : s.Shows items := by
  have hlength : s.warnings.length = items.length := by rw [h, List.length_map]
  have hlookup (name : String) (hname : name ∈ warningNames) (i : Nat) :
      (itemPath name i).lookup s.tree =
        items[i]?.map fun item ↦ (ParseWarning.ofJson item).tree := by
    rw [lookup_itemPath hname, h, List.getElem?_map, Option.map_map]
    rfl
  constructor
  · intro name hname
    rw [lookup_lengthPath hname, hlength]
  · intro name hname i
    rw [hlookup name hname, Option.isSome_map]
    simp
  · intro i
    rw [hlookup "warnings" (by decide), hlookup "__warnings" (by decide)]
  · intro ast a ha
    rw [← hlength, Assertion.isSatisfied_iff_check ha rfl]
    exact WorkflowCheck.noParseWarnings_eq_true_iff
  · intro name hname i item hitem
    rw [hlookup name hname, hitem, Option.map_some, Option.some.injEq]
    exact ParseWarning.tree_ofJson_eq_iff (hs item (List.mem_of_getElem? hitem))

/-- The items that are printed in a sorted value are sorted. -/
theorem sortedKeys_of_mem_printedItems {document : Json} (h : document.SortedKeys) :
    ∀ item ∈ printedItems document, item.SortedKeys := by
  intro item hitem
  unfold printedItems at hitem
  cases hw : printedWarnings? document with
  | none => simp [hw] at hitem
  | some j =>
    have hj : j.SortedKeys := by
      rcases Option.or_eq_some_iff.mp hw with hfirst | ⟨-, hsecond⟩
      · exact h.of_get? hfirst
      · exact h.of_get? hsecond
    cases hj with
    | array hitems => exact hitems item (by simpa [hw, Json.array?] using hitem)
    | _ => simp [hw, Json.array?] at hitem

end ParseStatus

namespace ParseOutput

private theorem ReadOff.warnings_eq {output : ParseOutput} {document : Json}
    (h : output.ReadOff document) : output.status.warnings =
      (ParseStatus.printedItems document).map ParseWarning.ofJson := by
  rw [h.warnings, ParseStatus.printedItems]
  cases ParseStatus.printedWarnings? document with
  | none => rfl
  | some j => cases j <;> rfl

/-- All readings of the warnings of a document agree, whichever of the two names it prints them
under. With the other name it is read as the same output, as it stands and as a value; and the
status shows the printed items, one warning for each, under both names and to assertions about their
number. -/
theorem warningReadings_agree {origin : Origin} {d : Document} {output : ParseOutput}
    (h : decode origin d = .ok output) :
    (∀ name ∈ ParseStatus.warningNames,
      Path.parse (name ++ ".length") = .ok (ParseStatus.lengthPath name) ∧
        ∀ i < Path.indexLimit,
          Path.parse (name ++ "[" ++ toString i ++ "]") = .ok (ParseStatus.itemPath name i)) ∧
    decode origin d.respelled = .ok output ∧
    ∃ document, d.toJson? = some document ∧
      (∀ origin', decode origin' (.ofJson document.respelled) = .ok output) ∧
      output.status.Shows (ParseStatus.printedItems document) := by
  obtain ⟨document, hvalue, hread⟩ := exists_toJson?_of_decode h
  obtain ⟨hrespelled, hvalues⟩ := decode_respelled h
  refine ⟨fun name hname ↦ ⟨ParseStatus.parse_lengthPath hname, fun i hi ↦
    ParseStatus.parse_itemPath hname hi⟩, hrespelled, document, hvalue, hvalues document hvalue, ?_⟩
  exact ParseStatus.shows_of_warnings_eq hread.warnings_eq
    (ParseStatus.sortedKeys_of_mem_printedItems (Document.sortedKeys_of_toJson? hvalue))

/-- A document that prints a text, an object without a message, null and a number for warnings. -/
def mixed : Json :=
  .object
    [("__warnings", .array [.string "late", .object [("line", .ofNat 3)], .null, .ofNat 7])]

/-- The output in that document. -/
def mixedOutput : ParseOutput where
  ast := .empty
  status := .ofWarnings [.text "late", .structured none [("line", .ofNat 3)], .empty, .empty]

/-- An assertion that there are four warnings. -/
def fourWarnings : Assertion :=
  { Assertion.new "count" "no_parse_warnings" with expected := some (.ofNat 4) }

/-- Under the other name the document is read as the same output; four warnings are counted, and the
second one is found as it was printed. -/
theorem warningReadings_agree_mixed :
    decode .text (.ofJson mixed) = .ok mixedOutput ∧
      decode .text (Document.ofJson mixed).respelled = .ok mixedOutput ∧
      (ParseStatus.lengthPath "warnings").lookup mixedOutput.status.tree = some (.ofNat 4) ∧
      (ParseStatus.itemPath "warnings" 1).lookup mixedOutput.status.tree =
        some (.object [("line", .ofNat 3)]) ∧
      ((ParseStatus.itemPath "__warnings" 4).lookup mixedOutput.status.tree).isSome = false ∧
      fourWarnings.IsSatisfied (.ofParseOutput mixedOutput) := by
  have hdecode : decode .text (.ofJson mixed) = .ok mixedOutput :=
    eq_ok_of_toOption (by decide +kernel)
  obtain ⟨-, hrespelled, document, hvalue, -, hshows⟩ := warningReadings_agree hdecode
  have hdocument : (Document.ofJson mixed).toJson? = some mixed := by decide
  obtain rfl : mixed = document := Option.some.inj (hdocument.symm.trans hvalue)
  refine ⟨hdecode, hrespelled, hshows.length "warnings" (by decide), ?_, ?_, ?_⟩
  · refine (hshows.printed "warnings" (by decide) 1 _ rfl).mpr ?_
    intro j hj
    cases hj
  · rw [Bool.eq_false_iff]
    exact fun hfound ↦ absurd ((hshows.found "__warnings" (by decide) 4).mp hfound) (by decide)
  · exact (hshows.count .empty fourWarnings rfl).mpr (.inr (by decide))

end ParseOutput

end Certification
