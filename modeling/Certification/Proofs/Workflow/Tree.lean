import Certification.Proofs.Path.Walk
import Certification.Proofs.Workflow.Reprint

/-!
# The tree of a status

The tree that status lookups run on against the object that the parser printed. The entries that a
status keeps are those of the printed object but for the fields of the output, and the tree adds the
warnings under both of their names. So below every other key of the object a path finds in the tree
what was printed, and no key is added or lost but those of the fields.
-/

namespace Certification

namespace Path

/-- The path leads on from an object, and under none of the given keys. -/
def StartsBeside (names : List String) (p : Path) : Prop :=
  ∃ segment rest, p.segments = segment :: rest ∧ segment.name ∉ names

private theorem StartsBeside.lookup_eq {names : List String} {p : Path} (h : p.StartsBeside names)
    {as bs : List (String × Json)}
    (hsame : ∀ key, key ∉ names → as.lookup key = bs.lookup key) :
    p.lookup (.object as) = p.lookup (.object bs) := by
  obtain ⟨segment, rest, hsegments, hbeside⟩ := h
  rw [lookup, lookup, hsegments, follow_cons, follow_cons, step_object, step_object,
    hsame segment.name hbeside]

end Path

private theorem ParseOutput.PrintedBy.extra_eq {output : ParseOutput}
    {entries : List (String × Json)} (h : output.PrintedBy entries) :
    output.status.extra =
      (Json.sortEntries entries).filter fun e ↦ !ParseStatus.outputFields.contains e.1 := by
  rw [h.extra, Json.filter_sortEntries fun key ↦ !ParseStatus.outputFields.contains key]
  congr 1
  apply List.filter_congr
  intro e _
  simp [ParseStatus.outputFields, ParseStatus.isWarnings]

namespace ParseStatus

/-- The warnings in the tree of a status. -/
def warningsTree (s : ParseStatus) : Json := .array (s.warnings.map ParseWarning.tree)

/-- The entries of the tree of a status. -/
def treeEntries (s : ParseStatus) : List (String × Json) :=
  Json.insertEntry "warnings" s.warningsTree
    (Json.insertEntry "__warnings" s.warningsTree s.extra)

variable {s : ParseStatus}

/-- The tree of a status is the object of its entries. -/
theorem tree_eq (s : ParseStatus) : s.tree = .object s.treeEntries := rfl

/-- The tree holds the warnings under both of their names, and under every other key what the status
keeps. -/
theorem lookup_treeEntries (s : ParseStatus) (key : String) :
    s.treeEntries.lookup key =
      if key ∈ warningNames then some s.warningsTree else s.extra.lookup key := by
  rw [treeEntries, Json.lookup_insertEntry, Json.lookup_insertEntry]
  by_cases hw : key = "warnings"
  · simp [hw, warningNames]
  · by_cases hu : key = "__warnings"
    · simp [hu, warningNames]
    · simp [hw, hu, warningNames]

/-- The tree of a status whose entries are sorted has sorted entries. -/
theorem increasing_treeEntries (h : Json.Increasing s.extra) : Json.Increasing s.treeEntries :=
  Json.increasing_insertEntry (Json.increasing_insertEntry h)

end ParseStatus

namespace ParseOutput.PrintedBy

variable {output : ParseOutput} {entries : List (String × Json)}

private theorem lookup_treeEntries (h : output.PrintedBy entries) {key : String}
    (hkey : key ∉ ParseStatus.outputFields) :
    output.status.treeEntries.lookup key = (Json.sortEntries entries).lookup key := by
  have hname : key ∉ ParseStatus.warningNames := fun hmem ↦ hkey (List.mem_cons_of_mem _ hmem)
  have hkept : (!ParseStatus.outputFields.contains key) = true := by simpa using hkey
  rw [output.status.lookup_treeEntries, if_neg hname, h.extra_eq,
    Json.lookup_filter_key (fun key ↦ !ParseStatus.outputFields.contains key), if_pos hkept]

/-- Beside the fields of the output, a path finds in the tree of the status what was printed. -/
theorem lookup_tree (h : output.PrintedBy entries) {path : Path}
    (hpath : path.StartsBeside ParseStatus.outputFields) :
    path.lookup output.status.tree = path.lookup (Json.record entries) := by
  rw [output.status.tree_eq, Json.record]
  exact hpath.lookup_eq fun _ hkey ↦ h.lookup_treeEntries hkey

/-- The keys of the tree of the status are the names of the warnings and the printed keys but the
one of the workflow. -/
theorem mem_keys_treeEntries (h : output.PrintedBy entries) (key : String) :
    key ∈ output.status.treeEntries.map Prod.fst ↔
      key ∈ ParseStatus.warningNames ∨
        key ≠ "ast" ∧ ((Json.record entries).get? key).isSome = true := by
  rw [Json.mem_keys_iff_isSome_lookup]
  by_cases hkey : key ∈ ParseStatus.outputFields
  · rw [output.status.lookup_treeEntries]
    rcases List.mem_cons.mp hkey with rfl | hname
    · rw [h.extra_eq, Json.lookup_filter_key fun key ↦ !ParseStatus.outputFields.contains key]
      simp [ParseStatus.warningNames, ParseStatus.outputFields]
    · simp [hname]
  · obtain ⟨hast, hname⟩ := not_or.mp (mt List.mem_cons.mpr hkey)
    rw [h.lookup_treeEntries hkey]
    simp [hast, hname, Json.record, Json.get?]

end ParseOutput.PrintedBy

end Certification
