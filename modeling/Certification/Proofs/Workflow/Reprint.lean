import Certification.Proofs.Chain
import Certification.Proofs.Json.Codec
import Certification.Proofs.Json.Kept
import Certification.Proofs.Workflow.Field

/-!
# Printing what a parser printed

Reading a parser's output puts it into a normal form: steps and warnings have what could be read of
them, the entries that have no meaning are kept sorted, and none of these has the name of a field.
An output in this form is read back as it is from what is written for it, and these outputs are the
only ones; so a document that has been read and written once is not changed by doing it again.
-/

namespace Certification

open Json (Increasing Kept SortedKeys)

/-! ### Values of fields -/

namespace Json

private theorem string?_ofOption (o : Option String) : (ofOption .string o).string? = o := by
  cases o <;> rfl

private theorem lt_of_nat?_eq_some {j : Json} {n : Nat} (h : j.nat? = some n) : n < 2 ^ 64 := by
  obtain ⟨number, -, hn⟩ := Option.bind_eq_some_iff.mp h
  cases number with
  | natural m =>
    cases hn
    exact m.isLt
  | negative _ => cases hn
  | double _ => cases hn

private theorem nat?_ofOption {o : Option Nat} (h : ∀ n, o = some n → n < 2 ^ 64) :
    (ofOption ofNat o).nat? = o := by
  cases o with
  | none => rfl
  | some n =>
    have hn := h n rfl
    have hmin : min n (2 ^ 64 - 1) = n := by omega
    simp [ofOption, ofNat, nat?, number?, Number.toNat?, hmin]

private theorem sortedKeys_ofOption_string (o : Option String) :
    SortedKeys (ofOption .string o) := by
  cases o with
  | none => exact .null
  | some s => exact .string s

private theorem sortedKeys_ofStrings (ss : List String) : SortedKeys (ofStrings ss) := by
  apply SortedKeys.array
  intro j hj
  obtain ⟨s, -, rfl⟩ := List.mem_map.mp hj
  exact .string s

/-- A value of a sorted object has sorted keys. -/
theorem SortedKeys.of_lookup {entries : List (String × Json)}
    (h : ∀ e ∈ entries, SortedKeys e.2) {key : String} {j : Json}
    (hj : entries.lookup key = some j) : SortedKeys j := by
  obtain ⟨before, after, rfl, -⟩ := List.lookup_eq_some_iff.mp hj
  exact h (key, j) (by simp)

/-- What stands under a key of a value with sorted keys has sorted keys. -/
theorem SortedKeys.of_get? {document j : Json} {key : String} (h : SortedKeys document)
    (hj : document.get? key = some j) : SortedKeys j := by
  cases h with
  | object _ hs => exact .of_lookup hs hj
  | _ => cases hj

end Json

/-! ### Policies -/

namespace FailurePolicy

/-- The count of a policy fits 64 bits. -/
def Normal (p : FailurePolicy) : Prop := ∀ n, p.count = some n → n < 2 ^ 64

/-- A policy that is read is in normal form. -/
theorem normal_of_ofJson? {j : Json} {p : FailurePolicy} (h : ofJson? j = some p) : p.Normal := by
  intro n hn
  cases j with
  | object entries =>
    cases h
    obtain ⟨j, -, hj⟩ := Option.bind_eq_some_iff.mp hn
    exact Json.lt_of_nat?_eq_some hj
  | array items =>
    simp only [ofJson?] at h
    split at h
    · cases h
      obtain ⟨j, -, hj⟩ := Option.bind_eq_some_iff.mp hn
      exact Json.lt_of_nat?_eq_some hj
    · cases h
  | null => cases h
  | bool _ => cases h
  | number _ => cases h
  | string _ => cases h

private theorem ofJson?_toJson {p : FailurePolicy} (h : p.Normal) : ofJson? p.toJson = some p := by
  simp [toJson, Json.record, ofJson?, Json.lookup_sortEntries, Json.valuesAt,
    Json.string?_ofOption, Json.nat?_ofOption h]

private theorem sortedKeys_toJson (p : FailurePolicy) : SortedKeys p.toJson := by
  apply Json.sortedKeys_record
  intro e he
  simp only [List.mem_cons, List.not_mem_nil, or_false] at he
  rcases he with rfl | rfl
  · exact Json.sortedKeys_ofOption_string p.action
  · cases p.count with
    | none => exact .null
    | some n => exact .number _

end FailurePolicy

namespace WorkflowStep

/-- Policies are read from the entries of a map one by one. -/
theorem policies?_eq_some_iff {entries : List (String × Json)}
    {ps : List (String × FailurePolicy)} :
    policies? entries = some ps ↔
      List.Forall₂ (fun e p ↦ e.1 = p.1 ∧ FailurePolicy.ofJson? e.2 = some p.2) entries ps := by
  induction entries generalizing ps with
  | nil => simp [policies?, eq_comm]
  | cons e rest ih =>
    obtain ⟨code, j⟩ := e
    simp only [policies?] at ih ⊢
    rw [List.mapM_cons]
    constructor
    · intro h
      obtain ⟨first, hfirst, h⟩ := Option.bind_eq_some_iff.mp h
      obtain ⟨others, hothers, h⟩ := Option.bind_eq_some_iff.mp h
      obtain ⟨policy, hpolicy, rfl⟩ := Option.map_eq_some_iff.mp hfirst
      cases h
      exact .cons ⟨rfl, hpolicy⟩ (ih.mp hothers)
    · intro h
      cases h with
      | @cons _ p _ ps hfirst hrest =>
        obtain ⟨code', policy⟩ := p
        obtain ⟨hcode, hpolicy⟩ := hfirst
        simp only at hcode hpolicy
        subst hcode
        rw [hpolicy, ih.mpr hrest]
        rfl

private theorem map_fst_of_policies? {entries : List (String × Json)}
    {ps : List (String × FailurePolicy)}
    (h : policies? entries = some ps) : ps.map Prod.fst = entries.map Prod.fst := by
  have hall := policies?_eq_some_iff.mp h
  clear h
  induction hall with
  | nil => rfl
  | cons hfirst _ ih => rw [List.map_cons, List.map_cons, ih, hfirst.1]

/-- Policies that are read from a sorted map are sorted, and each is in normal form. -/
theorem normal_of_policies? {entries : List (String × Json)} {ps : List (String × FailurePolicy)}
    (hi : Increasing entries) (h : policies? entries = some ps) :
    Increasing ps ∧ ∀ p ∈ ps, p.2.Normal := by
  constructor
  · have hkeys : (entries.map Prod.fst).Pairwise (· < ·) := List.pairwise_map.mpr hi
    rw [← map_fst_of_policies? h] at hkeys
    exact List.pairwise_map.mp hkeys
  · have hall := policies?_eq_some_iff.mp h
    clear h
    induction hall with
    | nil => simp
    | @cons e p rest ps hfirst _ ih =>
      have hp : p.2.Normal := FailurePolicy.normal_of_ofJson? hfirst.2
      exact List.forall_mem_cons.mpr ⟨hp, ih (List.pairwise_cons.mp hi).2⟩

end WorkflowStep

/-! ### Steps -/

namespace WorkflowStep

/-- A step as it is read: its policies are sorted by their codes and their counts fit 64 bits, and
the other entries are kept beside its fields. -/
structure Normal (s : WorkflowStep) : Prop where
  policies : ∀ ps, s.failurePolicies = some ps → Increasing ps ∧ ∀ p ∈ ps, p.2.Normal
  extra : Kept knownFields s.extra

private theorem normal_empty : empty.Normal := by
  constructor
  · intro ps hps
    cases hps
  · exact .nil _

/-- A step that is read from a sorted value is in normal form. -/
theorem normal_ofJson {j : Json} (h : SortedKeys j) : (ofJson j).Normal := by
  cases h with
  | @object entries hi hs =>
    constructor
    · intro ps hps
      obtain ⟨inner, hinner, hps⟩ := Option.bind_eq_some_iff.mp hps
      obtain ⟨printed, hprinted, hobject⟩ := Option.bind_eq_some_iff.mp hinner
      have hsorted := SortedKeys.of_lookup hs hprinted
      cases hsorted with
      | object hi' _ =>
        cases hobject
        exact normal_of_policies? hi' hps
      | _ => cases hobject
    · apply Kept.of_filter (fun key ↦ !knownFields.contains key) hi hs
      intro key hkey
      simpa using hkey
  | _ => exact normal_empty

/-- The value that is written for the policies of a step. -/
def policiesJson (ps : List (String × FailurePolicy)) : Json :=
  .object (ps.map fun p ↦ (p.1, p.2.toJson))

/-- The fields of a step in data. -/
def fieldEntries (s : WorkflowStep) : List (String × Json) :=
  [("type", .ofOption .string s.stepType), ("saveAs", .ofOption .string s.saveAs),
   ("failurePolicies", .ofOption policiesJson s.failurePolicies)]

private theorem toJson_eq (s : WorkflowStep) : s.toJson = .record (s.fieldEntries ++ s.extra) := rfl

private theorem policies?_map_toJson {ps : List (String × FailurePolicy)}
    (h : ∀ p ∈ ps, p.2.Normal) : policies? (ps.map fun p ↦ (p.1, p.2.toJson)) = some ps := by
  apply policies?_eq_some_iff.mpr
  induction ps with
  | nil => exact .nil
  | cons p rest ih =>
    obtain ⟨hp, hrest⟩ := List.forall_mem_cons.mp h
    exact .cons ⟨rfl, FailurePolicy.ofJson?_toJson hp⟩ (ih hrest)

/-- A step in normal form is read back. -/
theorem ofJson_toJson {s : WorkflowStep} (h : s.Normal) : ofJson s.toJson = s := by
  have htype : (Json.sortEntries (s.fieldEntries ++ s.extra)).lookup "type" =
      some (.ofOption .string s.stepType) := by
    rw [h.extra.lookup_sortEntries_append (by decide)]
    simp [fieldEntries, Json.valuesAt]
  have hsave : (Json.sortEntries (s.fieldEntries ++ s.extra)).lookup "saveAs" =
      some (.ofOption .string s.saveAs) := by
    rw [h.extra.lookup_sortEntries_append (by decide)]
    simp [fieldEntries, Json.valuesAt]
  have hpolicies : (Json.sortEntries (s.fieldEntries ++ s.extra)).lookup "failurePolicies" =
      some (.ofOption policiesJson s.failurePolicies) := by
    rw [h.extra.lookup_sortEntries_append (by decide)]
    simp [fieldEntries, Json.valuesAt]
  have hextra : (Json.sortEntries (s.fieldEntries ++ s.extra)).filter
      (fun e ↦ !knownFields.contains e.1) = s.extra := by
    apply h.extra.filter_sortEntries_append fun key ↦ !knownFields.contains key
    · simp [fieldEntries, knownFields]
    · simp
  have hread : (Json.object? (.ofOption policiesJson s.failurePolicies)).bind policies? =
      s.failurePolicies := by
    cases hps : s.failurePolicies with
    | none => rfl
    | some ps => exact policies?_map_toJson (h.policies ps hps).2
  rw [toJson_eq, Json.record]
  simp only [ofJson, ofEntries, htype, hsave, hpolicies, hextra, Option.bind_some,
    Json.string?_ofOption, hread]

/-- A step in normal form is written with sorted keys. -/
theorem sortedKeys_toJson {s : WorkflowStep} (h : s.Normal) : SortedKeys s.toJson := by
  rw [toJson_eq]
  apply h.extra.sortedKeys_record
  intro e he
  simp only [fieldEntries, List.mem_cons, List.not_mem_nil, or_false] at he
  rcases he with rfl | rfl | rfl
  · exact Json.sortedKeys_ofOption_string s.stepType
  · exact Json.sortedKeys_ofOption_string s.saveAs
  · cases hps : s.failurePolicies with
    | none => exact .null
    | some ps =>
      apply SortedKeys.object
      · exact List.pairwise_map.mpr (h.policies ps hps).1
      · intro e he
        obtain ⟨p, -, rfl⟩ := List.mem_map.mp he
        exact p.2.sortedKeys_toJson

end WorkflowStep

/-! ### Workflows -/

namespace WorkflowAst

/-- What was printed for a field of a sorted workflow has sorted keys. -/
theorem sortedKeys_of_printed? {key : String} {place : Nat} {ast j : Json} (h : SortedKeys ast)
    (hj : printed? key place ast = some j) : SortedKeys j := by
  cases h with
  | object _ hs => exact .of_lookup hs hj
  | array hs =>
    simp only [printed?] at hj
    split at hj
    · exact hs j (List.mem_of_getElem? hj)
    · cases hj
  | _ => cases hj

/-- Every step of a workflow that is read from a sorted value is in normal form. -/
theorem normal_of_mem_steps_ofJson {ast : Json} (h : SortedKeys ast) :
    ∀ s ∈ (ofJson ast).steps, s.Normal := by
  intro s hs
  rw [ofJson_eq_ofFields] at hs
  obtain ⟨j, hj, rfl⟩ := List.mem_map.mp hs
  apply WorkflowStep.normal_ofJson
  cases hprinted : printed? "steps" 2 ast with
  | none =>
    rw [hprinted] at hj
    cases hj
  | some printed =>
    rw [hprinted] at hj
    cases sortedKeys_of_printed? h hprinted with
    | array hitems => exact hitems j hj
    | _ => cases hj

private theorem ofJson_toJson {ast : WorkflowAst} (h : ∀ s ∈ ast.steps, s.Normal) :
    ofJson ast.toJson = ast := by
  have hsteps : (ast.steps.map WorkflowStep.toJson).map WorkflowStep.ofJson = ast.steps := by
    rw [List.map_map]
    conv_rhs => rw [← List.map_id ast.steps]
    exact List.map_congr_left fun s hs ↦ WorkflowStep.ofJson_toJson (h s hs)
  have hstrings (ss : List String) : strings (some (.ofStrings ss)) = ss := by
    simp [strings, Json.ofStrings, Json.array?, Json.mapM_string?_eq_some_iff.mpr rfl]
  simp [toJson, Json.record, ofJson, Json.lookup_sortEntries, Json.valuesAt, ofFields,
    Json.string?_ofOption, hstrings, stepsOf, Json.array?, hsteps]

/-- A workflow whose steps are in normal form is written with sorted keys. -/
theorem sortedKeys_toJson {ast : WorkflowAst} (h : ∀ s ∈ ast.steps, s.Normal) :
    SortedKeys ast.toJson := by
  apply Json.sortedKeys_record
  intro e he
  simp only [List.mem_cons, List.not_mem_nil, or_false] at he
  rcases he with rfl | rfl | rfl | rfl
  · exact Json.sortedKeys_ofOption_string ast.name
  · exact Json.sortedKeys_ofStrings ast.allowedResolvers
  · apply SortedKeys.array
    intro j hj
    obtain ⟨s, hs, rfl⟩ := List.mem_map.mp hj
    exact WorkflowStep.sortedKeys_toJson (h s hs)
  · exact Json.sortedKeys_ofStrings ast.returnValues

end WorkflowAst

/-! ### Warnings -/

namespace ParseWarning

/-- A warning as it is read: the entries of an object beside its message are kept. -/
def Normal : ParseWarning → Prop
  | .text _ => True
  | .structured _ extra => Kept ["message"] extra

/-- A warning that is read from a sorted value is in normal form. -/
theorem normal_ofJson {j : Json} (h : SortedKeys j) : (ofJson j).Normal := by
  cases h with
  | @object entries hi hs =>
    have hkept : Kept ["message"] (Json.eraseEntry "message" entries) := by
      apply Kept.of_filter (fun key ↦ decide (key ≠ "message")) hi hs
      simp
    unfold ofJson
    simp only
    split
    · exact hkept
    · exact hkept
    · exact hkept
    · trivial
  | _ => trivial

/-- A warning in normal form is read back. -/
theorem ofJson_toJson {w : ParseWarning} (h : w.Normal) : ofJson w.toJson = w := by
  cases w with
  | text message => rfl
  | structured message extra =>
    have hkept : Kept ["message"] extra := h
    have hmessage : (Json.sortEntries ([("message", .ofOption .string message)] ++ extra)).lookup
        "message" = some (.ofOption .string message) := by
      rw [hkept.lookup_sortEntries_append (by decide)]
      simp [Json.valuesAt]
    have hextra : Json.eraseEntry "message"
        (Json.sortEntries ([("message", .ofOption .string message)] ++ extra)) = extra := by
      apply hkept.filter_sortEntries_append fun key ↦ decide (key ≠ "message")
      · simp
      · simp
    rw [List.singleton_append] at hmessage hextra
    simp only [toJson, Json.record, ofJson, hmessage, hextra]
    cases message <;> rfl

private theorem sortedKeys_toJson {w : ParseWarning} (h : w.Normal) : SortedKeys w.toJson := by
  cases w with
  | text message => exact .string message
  | structured message extra =>
    have hkept : Kept ["message"] extra := h
    change SortedKeys (.record ([("message", .ofOption .string message)] ++ extra))
    apply hkept.sortedKeys_record
    intro e he
    rw [List.mem_singleton.mp he]
    exact Json.sortedKeys_ofOption_string message

end ParseWarning

/-! ### Outputs -/

namespace ParseStatus

/-- Names of the fields that stand beside the entries that are kept of an output. -/
def outputFields : List String := "ast" :: warningNames

/-- A status as it is read: its warnings are in normal form, and the other entries are kept beside
the fields of the output. -/
structure Normal (s : ParseStatus) : Prop where
  warnings : ∀ w ∈ s.warnings, w.Normal
  extra : Kept outputFields s.extra

private theorem normal_of_mem_warningsOf {j : Json} (h : SortedKeys j) :
    ∀ w ∈ warningsOf j, w.Normal := by
  intro w hw
  cases h with
  | array hitems =>
    obtain ⟨item, hitem, rfl⟩ := List.mem_map.mp hw
    exact ParseWarning.normal_ofJson (hitems item hitem)
  | _ => cases hw

private theorem sortedKeys_of_mem_entries {s : ParseStatus} (h : s.Normal) :
    ∀ e ∈ s.entries, SortedKeys e.2 := by
  refine List.forall_mem_cons.mpr ⟨?_, h.extra.sorted⟩
  · apply SortedKeys.array
    intro j hj
    obtain ⟨w, hw, rfl⟩ := List.mem_map.mp hj
    exact ParseWarning.sortedKeys_toJson (h.warnings w hw)

private theorem filter_isWarnings_entries {s : ParseStatus} (h : s.Normal) :
    s.entries.filter isWarnings = [("warnings", .array (s.warnings.map ParseWarning.toJson))] := by
  have hnone : s.extra.filter isWarnings = [] := by
    apply List.filter_eq_nil_iff.mpr
    intro e he
    have hforeign := h.extra.foreign e he
    simp only [outputFields, List.mem_cons, not_or] at hforeign
    simpa [isWarnings] using hforeign.2
  rw [entries, List.filter_cons_of_pos (by simp [isWarnings, warningNames]), hnone]

private theorem warningsOf_map_toJson {s : ParseStatus} (h : s.Normal) :
    warningsOf (.array (s.warnings.map ParseWarning.toJson)) = s.warnings := by
  rw [warningsOf, List.map_map]
  conv_rhs => rw [← List.map_id s.warnings]
  exact List.map_congr_left fun w hw ↦ ParseWarning.ofJson_toJson (h.warnings w hw)

end ParseStatus

namespace ParseOutput

/-- An output as it is read. -/
structure Normal (o : ParseOutput) : Prop where
  steps : ∀ s ∈ o.ast.steps, s.Normal
  status : o.status.Normal

/-- An output that entries with sorted values print is in normal form. -/
theorem PrintedBy.normal {output : ParseOutput} {entries : List (String × Json)}
    (h : output.PrintedBy entries) (hs : ∀ e ∈ entries, SortedKeys e.2) : output.Normal := by
  have hkept : ∀ e ∈ output.status.extra, e ∈ entries ∧ e.1 ∉ ParseStatus.outputFields := by
    intro e he
    rw [h.extra] at he
    obtain ⟨hmem, hother⟩ := List.mem_filter.mp (Json.mem_of_mem_sortEntries he)
    exact ⟨hmem, by simpa [ParseStatus.outputFields, ParseStatus.isWarnings] using hother⟩
  constructor
  · rw [h.ast]
    cases hhead : (Json.valuesAt "ast" entries).head? with
    | none => simp [WorkflowAst.empty]
    | some j =>
      obtain ⟨e, he, rfl⟩ := List.mem_map.mp (List.mem_of_head? hhead)
      exact WorkflowAst.normal_of_mem_steps_ofJson (hs e (List.mem_filter.mp he).1)
  · constructor
    · rw [h.warnings]
      cases hhead : (entries.filter ParseStatus.isWarnings).head? with
      | none => simp
      | some e =>
        have he := (List.mem_filter.mp (List.mem_of_head? hhead)).1
        exact ParseStatus.normal_of_mem_warningsOf (hs e he)
    · constructor
      · rw [h.extra]
        exact Json.increasing_sortEntries _
      · exact fun e he ↦ hs e (hkept e he).1
      · exact fun e he ↦ (hkept e he).2

private theorem yieldsOnly_decode (origin : Origin) (d : Document) :
    YieldsOnly Normal (decode origin d) := by
  intro output h
  obtain ⟨entries, js, -, hjs, hprinted⟩ := decode_eq_ok_iff.mp h
  exact hprinted.normal (Document.sortedKeys_of_toEntries? hjs)

/-- What is written for an output in normal form prints it. -/
theorem Normal.printedBy {o : ParseOutput} (h : o.Normal) :
    o.PrintedBy (("ast", o.ast.toJson) :: o.status.entries) := by
  have hforeign : ∀ e ∈ o.status.entries, e.1 ≠ "ast" := by
    refine List.forall_mem_cons.mpr ⟨by simp, fun e he heq ↦ ?_⟩
    exact h.status.extra.foreign e he (by simp [heq, ParseStatus.outputFields])
  have hast : Json.valuesAt "ast" (("ast", o.ast.toJson) :: o.status.entries) =
      [o.ast.toJson] := by
    have hnone : Json.valuesAt "ast" o.status.entries = [] := by
      simpa [Json.valuesAt] using hforeign
    rw [Json.valuesAt_cons_self, hnone]
  have hwarnings : (("ast", o.ast.toJson) :: o.status.entries).filter ParseStatus.isWarnings =
      [("warnings", .array (o.status.warnings.map ParseWarning.toJson))] := by
    rw [List.filter_cons_of_neg (by simp [ParseStatus.isWarnings, ParseStatus.warningNames]),
      ParseStatus.filter_isWarnings_entries h.status]
  have hextra : (("ast", o.ast.toJson) :: o.status.entries).filter
      (fun e ↦ decide (e.1 ≠ "ast") && !ParseStatus.isWarnings e) = o.status.extra := by
    have hall : o.status.extra.filter
        (fun e ↦ decide (e.1 ≠ "ast") && !ParseStatus.isWarnings e) = o.status.extra := by
      apply List.filter_eq_self.mpr
      intro e he
      have hforeign := h.status.extra.foreign e he
      simpa [ParseStatus.outputFields, ParseStatus.isWarnings] using hforeign
    rw [List.filter_cons_of_neg (by simp), ParseStatus.entries,
      List.filter_cons_of_neg (by simp [ParseStatus.isWarnings, ParseStatus.warningNames]), hall]
  constructor
  · rw [hast, List.length_singleton]
  · rw [hwarnings, List.length_singleton]
  · rw [hast]
    exact (WorkflowAst.ofJson_toJson h.steps).symm
  · rw [hwarnings]
    exact (ParseStatus.warningsOf_map_toJson h.status).symm
  · rw [hextra, Json.sortEntries_of_increasing h.status.extra.increasing]

private theorem reads_toJson {o : ParseOutput} (h : o.Normal) : decode.Reads o.toJson o :=
  h.printedBy.decode_record (List.forall_mem_cons.mpr
    ⟨WorkflowAst.sortedKeys_toJson h.steps, ParseStatus.sortedKeys_of_mem_entries h.status⟩)

/-- An output that was read is read back from what is written for it, be it read from a value or
from a text; and only outputs in normal form are. -/
theorem reprint_stable :
    (∀ j output, Decoder.ofJson decode j = .ok output →
      Decoder.ofJson decode output.toJson = .ok output) ∧
    (∀ text output, Decoder.ofText decode text = .ok output →
      Decoder.ofJson decode output.toJson = .ok output) ∧
    ∀ output, decode.Reads output.toJson output ↔ output.Normal := by
  refine ⟨fun j output h ↦ ?_, fun text output h ↦ ?_, fun output ↦ ⟨fun h ↦ ?_, reads_toJson⟩⟩
  · exact reads_toJson (yieldsOnly_decode .value _ output h) .value
  · obtain ⟨_, hread, h⟩ := bind_eq_ok_iff.mp h
    split at h
    · cases h
      exact reads_toJson (yieldsOnly_decode .text _ output hread) .value
    · cases h
  · exact yieldsOnly_decode .value _ output (h .value)

/-- A document in which a name, an array of names, a step, a number of retries and a warning have
the wrong type, and which holds entries that have no meaning at each level. -/
def mistyped : Json :=
  .object
    [("ast", .object
      [("name", .ofNat 7), ("allowedResolvers", .array [.string "a", .null]),
       ("steps", .array
         [.object
           [("type", .string "call"), ("saveAs", .bool true),
            ("failurePolicies", .object
              [("E1", .object [("action", .null), ("count", .ofInt (-1))]), ("E2", .array [])]),
            ("note", .record [("b", .null), ("a", .array [])])],
          .string "step"])]),
     ("z", .ofNat 1),
     ("__warnings", .array
       [.ofNat 3, .string "late", .object [("line", .ofNat 2), ("message", .null)]]),
     ("elapsed", .ofNat 5)]

/-- The output in that document. -/
def mistypedOutput : ParseOutput where
  ast := { WorkflowAst.empty with
    steps :=
      [{ WorkflowStep.empty with
          stepType := some "call"
          failurePolicies := some [("E1", ⟨none, none⟩), ("E2", ⟨none, none⟩)]
          extra := [("note", .object [("a", .array []), ("b", .null)])] },
       .empty] }
  status :=
    { warnings := [.text "", .text "late", .structured none [("line", .ofNat 2)]]
      extra := [("elapsed", .ofNat 5), ("z", .ofNat 1)] }

/-- A text in which the workflow is an array that is shorter than the record. -/
def positional : String := "\x7b\"ast\":[\"w\"],\"warnings\":null\x7d"

/-- The output in that text. -/
def positionalOutput : ParseOutput := ⟨{ WorkflowAst.empty with name := some "w" }, ⟨[], []⟩⟩

/-- The outputs in the document and in the text are read back. -/
theorem reprint_stable_mistyped :
    Decoder.ofJson decode mistyped = .ok mistypedOutput ∧
    Decoder.ofJson decode mistypedOutput.toJson = .ok mistypedOutput ∧
    Decoder.ofText decode positional = .ok positionalOutput ∧
    Decoder.ofJson decode positionalOutput.toJson = .ok positionalOutput := by
  have hvalue : Decoder.ofJson decode mistyped = .ok mistypedOutput :=
    eq_ok_of_toOption (by decide +kernel)
  have htext : Decoder.ofText decode positional = .ok positionalOutput :=
    eq_ok_of_toOption (by decide +kernel)
  obtain ⟨hvalues, htexts, -⟩ := reprint_stable
  exact ⟨hvalue, hvalues _ _ hvalue, htext, htexts _ _ htext⟩

end ParseOutput

end Certification
