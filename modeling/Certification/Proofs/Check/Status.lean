import Certification.Proofs.Check.Malformed
import Certification.Proofs.Workflow.Tree

/-!
# Numbers in a status

An assertion about a number in the status of a parse follows its path in the tree of the status.
Beside the fields of the output the tree shows what the parser printed, so what such an assertion
says depends on the printed value at its path and on nothing else in the document.
-/

namespace Certification

namespace WorkflowCheck

variable {status status' : ParseStatus} {a : Assertion} {path : Path}

private theorem statusGreaterThan_congr (hpath : a.path? = some path)
    (h : path.lookup status.tree = path.lookup status'.tree) :
    statusGreaterThan status a = statusGreaterThan status' a := by
  obtain ⟨expression, hexpression, hparse⟩ := Assertion.path?_eq_some_iff.mp hpath
  have hrequire : a.requirePath .statusGreaterThan = .ok expression :=
    Assertion.require_eq_ok_iff.mpr hexpression
  simp only [statusGreaterThan, hrequire, bind, Except.bind, hparse, h]

/-- A number is greater than expected when the value at the path is a number, and the expected one
is a number below it. -/
theorem isSatisfied_iff_lookup {ast : WorkflowAst}
    (ha : a.kind = AssertionKind.statusGreaterThan.name) (hpath : a.path? = some path) :
    a.IsSatisfied (.workflow ast status) ↔
      ∃ threshold value, a.expected.bind Json.double? = some threshold ∧
        (path.lookup status.tree).bind Json.double? = some value ∧ threshold.lt value = true := by
  obtain ⟨expression, hexpression, hparse⟩ := Assertion.path?_eq_some_iff.mp hpath
  rw [Assertion.isSatisfied_iff_check ha rfl]
  refine statusGreaterThan_eq_true_iff.trans ?_
  simp [hexpression, hparse]

end WorkflowCheck

namespace ParseOutput

/-- The tree of a status shows what the parser printed. A path that starts beside the fields of the
output finds in the tree what it finds in the printed object; the tree has each key once, and its
keys are those of the object without the one of the workflow, and the names of the warnings. So an
assertion about a number at such a path says the same of every document in which the same value
stands there, and is satisfied when that value is a number above the expected one. -/
theorem statusTree_faithful {origin : Origin} {d : Document} {output : ParseOutput}
    (h : decode origin d = .ok output) :
    ∃ document, d.toJson? = some document ∧
      (∀ path : Path, path.StartsBeside ParseStatus.outputFields →
        path.lookup output.status.tree = path.lookup document) ∧
      (∃ entries, output.status.tree = .object entries ∧ Json.Increasing entries ∧
        ∀ key, key ∈ entries.map Prod.fst ↔
          key ∈ ParseStatus.warningNames ∨ key ≠ "ast" ∧ (document.get? key).isSome = true) ∧
      ∀ (a : Assertion) (path : Path), a.path? = some path →
        path.StartsBeside ParseStatus.outputFields →
        (∀ (origin' : Origin) (d' : Document) (output' : ParseOutput) (document' : Json),
          decode origin' d' = .ok output' → d'.toJson? = some document' →
          path.lookup document' = path.lookup document →
          AssertionKind.statusGreaterThan.checkShaped (.ofParseOutput output') a =
            AssertionKind.statusGreaterThan.checkShaped (.ofParseOutput output) a) ∧
        (a.kind = AssertionKind.statusGreaterThan.name →
          (a.IsSatisfied (.ofParseOutput output) ↔
            ∃ threshold value, a.expected.bind Json.double? = some threshold ∧
              (path.lookup document).bind Json.double? = some value ∧
              threshold.lt value = true)) := by
  obtain ⟨js, hvalue, hprinted⟩ := exists_printedBy_of_decode h
  have hextra : Json.Increasing output.status.extra := by
    rw [hprinted.extra]
    exact Json.increasing_sortEntries _
  refine ⟨Json.record js, hvalue, fun path hpath ↦ hprinted.lookup_tree hpath,
    ⟨output.status.treeEntries, rfl, ParseStatus.increasing_treeEntries hextra,
      hprinted.mem_keys_treeEntries⟩, fun a path hpath hbeside ↦ ⟨?_, fun ha ↦ ?_⟩⟩
  · intro origin' d' output' document' h' hvalue' hsame
    obtain ⟨js', hjs', hprinted'⟩ := exists_printedBy_of_decode h'
    obtain rfl : document' = Json.record js' := Option.some.inj (hvalue'.symm.trans hjs')
    apply WorkflowCheck.statusGreaterThan_congr hpath
    rw [hprinted'.lookup_tree hbeside, hsame, hprinted.lookup_tree hbeside]
  · rw [← hprinted.lookup_tree hbeside]
    exact WorkflowCheck.isSatisfied_iff_lookup ha hpath

/-- A document that prints how often the lines of a workflow were run. -/
def measured : Json :=
  .object
    [("__warnings", .array [.string "late"]), ("ast", .null),
     ("coverage", .object [("lines", .array [.ofNat 3, .object [("hits", .ofNat 7)]])])]

/-- The output in that document. -/
def measuredOutput : ParseOutput where
  ast := .empty
  status :=
    { warnings := [.text "late"]
      extra := [("coverage", .object [("lines", .array [.ofNat 3, .object [("hits", .ofNat 7)]])])] }

/-- The path to the runs of the second line. -/
def hitsPath : Path := ⟨[.key "coverage", .key "lines", .index 1, .key "hits"]⟩

/-- An assertion that the second line was run more than six times. -/
def hits : Assertion :=
  { Assertion.new "hits" "status_greater_than" with
    path := some "coverage.lines[1].hits"
    expected := some (.ofNat 6) }

/-- The runs of the second line are found in the tree as they were printed, and they are more than
six. -/
theorem statusTree_faithful_measured :
    decode .value (.ofJson measured) = .ok measuredOutput ∧
      hitsPath.StartsBeside ParseStatus.outputFields ∧
      hitsPath.lookup measuredOutput.status.tree = some (.ofNat 7) ∧
      hits.IsSatisfied (.ofParseOutput measuredOutput) := by
  have hdecode : decode .value (.ofJson measured) = .ok measuredOutput :=
    eq_ok_of_toOption (by decide +kernel)
  have hbeside : hitsPath.StartsBeside ParseStatus.outputFields :=
    ⟨.key "coverage", _, rfl, by decide⟩
  have hpath : hits.path? = some hitsPath := by decide
  obtain ⟨document, hvalue, hlookup, -, hcheck⟩ := statusTree_faithful hdecode
  have hdocument : (Document.ofJson measured).toJson? = some measured := by decide
  obtain rfl : measured = document := Option.some.inj (hdocument.symm.trans hvalue)
  have hfound : hitsPath.lookup measured = some (.ofNat 7) := by decide
  refine ⟨hdecode, hbeside, (hlookup _ hbeside).trans hfound, ?_⟩
  refine ((hcheck hits hitsPath hpath hbeside).2 rfl).mpr
    ⟨⟨false, 6 * 2 ^ 50, 1024, by decide⟩, ⟨false, 7 * 2 ^ 50, 1024, by decide⟩, ?_, ?_, ?_⟩
  · decide +kernel
  · rw [hfound]
    decide +kernel
  · decide +kernel

end ParseOutput

end Certification
