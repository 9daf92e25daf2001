import Certification.Proofs.Assertion.Satisfied
import Certification.Proofs.Check.Workflow
import Certification.Proofs.Workflow.Field

/-!
# Malformed fields

What the checks of a workflow say when a field that they read is malformed. The field reads as its
default, so most checks fail; `Assertion.Overlooks` lists the ones that hold of the default, and
`ParseOutput.isSatisfied_iff_overlooks` shows that they are the only ones that still pass.
-/

namespace Certification

/-- The kinds that read a field. -/
def ParserField.readers : ParserField → List AssertionKind
  | .name => [.workflowNamePresent]
  | .allowedResolvers => [.allowedResolversListed, .resolverNamesNormalized]
  | .returnValues => [.workflowReturnValues, .workflowReturnValuesEmpty]
  | .warnings => [.noParseWarnings, .containsWarning, .statusGreaterThan]
  | .stepType _ => [.stepType]
  | .stepSaveAs _ => [.stepSaveAs]
  | .stepFailurePolicies _ => [.stepFailurePolicies]

namespace Assertion

/-- The path of an assertion, when it states one that can be read. -/
def path? (a : Assertion) : Option Path :=
  a.path.bind fun expression ↦ (Path.parse expression).toOption

/-- The path is there when it is stated and can be read. -/
theorem path?_eq_some_iff {a : Assertion} {path : Path} :
    a.path? = some path ↔
      ∃ expression, a.path = some expression ∧ Path.parse expression = .ok path := by
  rw [path?, Option.bind_eq_some_iff]
  constructor
  · rintro ⟨expression, hexpr, hparse⟩
    refine ⟨expression, hexpr, ?_⟩
    cases hp : Path.parse expression with
    | error fault =>
      rw [hp] at hparse
      cases hparse
    | ok path' =>
      rw [hp] at hparse
      cases hparse
      rfl
  · rintro ⟨expression, hexpr, hparse⟩
    exact ⟨expression, hexpr, by rw [hparse]; rfl⟩

/-- An assertion of a kind reads a field: the kind is one of those that do, the step of the field is
the stated one, and a path into the status begins with a name of the warnings or is empty. -/
structure Reads (a : Assertion) (kind : AssertionKind) (field : ParserField) : Prop where
  named : a.kind = kind.name
  reader : kind ∈ field.readers
  step : ∀ position, field.position? = some position → a.stepIndex = some position
  path : kind = .statusGreaterThan → ∃ path, a.path? = some path ∧
    ∀ segment ∈ path.segments.head?, ∃ name ∈ ParseStatus.warningNames, segment = .key name

/-- An assertion of a kind is satisfied although the field that it reads is malformed, for a value
that was printed for the field. -/
def Overlooks (a : Assertion) (j : Json) : AssertionKind → Prop
  | .resolverNamesNormalized => True
  | .allowedResolversListed | .workflowReturnValues | .workflowReturnValuesEmpty =>
    a.expected = some (.array [])
  | .noParseWarnings => a.expected = none ∨ a.expected.bind Json.nat? = some 0
  | .statusGreaterThan =>
    (∃ name ∈ ParseStatus.warningNames, a.path? = some ⟨[.key name, .key "length"]⟩) ∧
      ∃ threshold, a.expected.bind Json.double? = some threshold ∧ threshold.units < 0
  | .stepFailurePolicies =>
    ∃ policies wanted, j.object?.bind WorkflowStep.policies? = some policies ∧
      a.expected = some (.object wanted) ∧ WorkflowCheck.policiesMatch policies wanted = true
  | _ => False

end Assertion

private theorem Json.strings?_eq_some_nil {j : Json} : j.strings? = some [] ↔ j = .array [] := by
  constructor
  · intro h
    obtain ⟨items, hitems, hm⟩ := Option.bind_eq_some_iff.mp h
    rw [mapM_string?_eq_some_iff.mp hm] at hitems
    cases j with
    | array items =>
      cases hitems
      rfl
    | _ => cases hitems
  · rintro rfl
    rfl

private theorem Binary64.ofInt?_zero : ofInt? 0 = some (zero false) := by
  unfold ofInt?
  -- The unit is named, so that no step computes the power.
  generalize 2 ^ 1074 = unit
  simp [round?, exponentFor, roundDiv, zero]

/-- The numbers below zero are those of negative value. -/
theorem Binary64.lt_zero_iff {x : Binary64} : x.lt (zero false) = true ↔ x.units < 0 := by
  simp [lt, units, zero, magnitude]

private theorem Json.double?_ofNat_zero : (Json.ofNat 0).double? = some (Binary64.zero false) := by
  simp only [ofNat, double?, number?, Option.bind_some, Number.toDouble?, Nat.zero_min]
  exact Binary64.ofInt?_zero

/-- The only number inside an empty array is its length. -/
theorem Path.follow_nil_eq_number {segments : List Segment} {value : Binary64} :
    (follow segments (.array [])).bind Json.double? = some value ↔
      segments = [.key "length"] ∧ value = Binary64.zero false := by
  have hlength : follow [.key "length"] (.array []) = some (Json.ofNat 0) := by
    rw [follow, computedLength?]
    rfl
  constructor
  · intro h
    cases segments with
    | nil => cases h
    | cons segment rest =>
      by_cases hs : segment = .key "length"
      · subst hs
        cases rest with
        | nil =>
          rw [hlength, Option.bind_some, Json.double?_ofNat_zero, Option.some.injEq] at h
          exact ⟨rfl, h.symm⟩
        | cons _ _ => cases h
      · have hc : computedLength? segment (.array []) = none := by
          simp [computedLength?, hs]
        cases segment with
        | key name => simp [follow, hc, child?] at h
        | index n => simp [follow, hc, child?] at h
  · rintro ⟨rfl, rfl⟩
    rw [hlength, Option.bind_some, Json.double?_ofNat_zero]

namespace WorkflowCheck

variable {ast : WorkflowAst} {status : ParseStatus} {a : Assertion}

private theorem sameMembers_nil {expected : List String} :
    sameMembers [] expected = true ↔ expected = [] := by
  cases expected <;> simp [sameMembers]

private theorem exists_sameMembers_nil :
    (∃ expected, a.expected.bind Json.strings? = some expected ∧ sameMembers [] expected = true) ↔
      a.expected = some (.array []) := by
  constructor
  · rintro ⟨expected, he, hs⟩
    rw [sameMembers_nil.mp hs] at he
    obtain ⟨j, hj, hn⟩ := Option.bind_eq_some_iff.mp he
    rw [hj, Json.strings?_eq_some_nil.mp hn]
  · intro h
    exact ⟨[], by rw [h]; rfl, rfl⟩

private theorem allowedResolversListed_of_nil (h : ast.allowedResolvers = []) :
    allowedResolversListed ast a = .ok true ↔ a.expected = some (.array []) := by
  rw [allowedResolversListed_eq_true_iff, h]
  exact exists_sameMembers_nil

private theorem workflowReturnValues_of_nil {kind : AssertionKind} (h : ast.returnValues = []) :
    workflowReturnValues kind ast a = .ok true ↔ a.expected = some (.array []) := by
  rw [workflowReturnValues_eq_true_iff, h]
  exact exists_sameMembers_nil

private theorem workflowNamePresent_of_none (h : ast.name = none) :
    workflowNamePresent ast a ≠ .ok true := by
  rw [Ne, workflowNamePresent_eq_true_iff]
  rintro ⟨name, hname, -⟩
  rw [h] at hname
  cases hname

private theorem stepText_of_none {kind : AssertionKind} {field : WorkflowStep → Option String}
    {position : Int} (hposition : a.stepIndex = some position)
    (h : (ast.step? position).bind field = none) : stepText kind field ast a ≠ .ok true := by
  rw [Ne, stepText_eq_true_iff]
  rintro ⟨position', text, hp, htext, -⟩
  rw [hposition, Option.some.injEq] at hp
  rw [← hp, h] at htext
  cases htext

private theorem noParseWarnings_of_nil (h : status.warnings = []) :
    noParseWarnings status a = .ok true ↔
      a.expected = none ∨ a.expected.bind Json.nat? = some 0 := by
  rw [noParseWarnings_eq_true_iff, h]
  simp

private theorem containsWarning_of_nil (h : status.warnings = []) :
    containsWarning status a ≠ .ok true := by
  rw [Ne, containsWarning_eq_true_iff]
  rintro ⟨needle, warning, -, hmem, -⟩
  rw [h] at hmem
  cases hmem

private theorem get?_tree_of_nil (h : status.warnings = []) {name : String}
    (hname : name ∈ ParseStatus.warningNames) : status.tree.get? name = some (.array []) := by
  simp only [ParseStatus.tree, Json.get?, h, List.map_nil, Json.lookup_insertEntry]
  by_cases hw : name = "warnings"
  · rw [if_pos hw]
  · have hu : name = "__warnings" := by simpa [ParseStatus.warningNames, hw] using hname
    rw [if_neg hw, if_pos hu]

/-- The only number that a path into the warnings leads to, when there are none, is their number. -/
theorem lookup_tree_of_nil (h : status.warnings = []) {path : Path} {value : Binary64}
    (hroot : ∀ segment ∈ path.segments.head?,
      ∃ name ∈ ParseStatus.warningNames, segment = .key name) :
    (path.lookup status.tree).bind Json.double? = some value ↔
      (∃ name ∈ ParseStatus.warningNames, path = ⟨[.key name, .key "length"]⟩) ∧
        value = Binary64.zero false := by
  obtain ⟨segments⟩ := path
  cases segments with
  | nil =>
    constructor
    · intro hv
      cases hv
    · rintro ⟨⟨name, -, hpath⟩, -⟩
      cases hpath
  | cons segment rest =>
    obtain ⟨name, hname, rfl⟩ := hroot segment rfl
    have hstep : Path.lookup ⟨.key name :: rest⟩ status.tree = Path.follow rest (.array []) := by
      have hc : Path.computedLength? (.key name) status.tree = none := by
        simp [Path.computedLength?, ParseStatus.tree]
      have hget : Path.child? (.key name) status.tree = some (.array []) := get?_tree_of_nil h hname
      rw [Path.lookup, Path.follow, hc, hget]
      rfl
    rw [hstep, Path.follow_nil_eq_number]
    constructor
    · rintro ⟨rfl, hv⟩
      exact ⟨⟨name, hname, rfl⟩, hv⟩
    · rintro ⟨⟨name', -, hpath⟩, hv⟩
      cases hpath
      exact ⟨rfl, hv⟩

/-- When no warnings can be read, the one number that a path into them leads to is zero. -/
theorem statusGreaterThan_of_nil (h : status.warnings = []) {path : Path}
    (hpath : a.path? = some path)
    (hroot : ∀ segment ∈ path.segments.head?,
      ∃ name ∈ ParseStatus.warningNames, segment = .key name) :
    statusGreaterThan status a = .ok true ↔
      (∃ name ∈ ParseStatus.warningNames, a.path? = some ⟨[.key name, .key "length"]⟩) ∧
        ∃ threshold, a.expected.bind Json.double? = some threshold ∧ threshold.units < 0 := by
  rw [statusGreaterThan_eq_true_iff]
  constructor
  · rintro ⟨expression, path', threshold, value, hexpr, hparse, ht, hv, hlt⟩
    have hsame : a.path? = some path' := Assertion.path?_eq_some_iff.mpr ⟨expression, hexpr, hparse⟩
    rw [hpath, Option.some.injEq] at hsame
    subst hsame
    obtain ⟨⟨name, hname, hp⟩, hzero⟩ := (lookup_tree_of_nil h hroot).mp hv
    rw [hzero, Binary64.lt_zero_iff] at hlt
    exact ⟨⟨name, hname, by rw [hpath, hp]⟩, threshold, ht, hlt⟩
  · rintro ⟨⟨name, hname, hp⟩, threshold, ht, hlt⟩
    rw [hpath, Option.some.injEq] at hp
    obtain ⟨expression, hexpr, hparse⟩ := Assertion.path?_eq_some_iff.mp hpath
    refine ⟨expression, path, threshold, Binary64.zero false, hexpr, hparse, ht, ?_, ?_⟩
    · exact (lookup_tree_of_nil h hroot).mpr ⟨⟨name, hname, hp⟩, rfl⟩
    · exact Binary64.lt_zero_iff.mpr hlt

/-- The policies of the stated step are as expected when they match those of the expected value. -/
theorem stepFailurePolicies_of_eq {position : Int} (hposition : a.stepIndex = some position)
    {o : Option (List (String × FailurePolicy))}
    (h : (ast.step? position).bind WorkflowStep.failurePolicies = o) :
    stepFailurePolicies ast a = .ok true ↔
      ∃ policies wanted, o = some policies ∧ a.expected = some (.object wanted) ∧
        policiesMatch policies wanted = true := by
  rw [stepFailurePolicies_eq_true_iff]
  constructor
  · rintro ⟨position', policies, wanted, hp, hpolicies, he, hmatch⟩
    rw [hposition, Option.some.injEq] at hp
    rw [← hp, h] at hpolicies
    exact ⟨policies, wanted, hpolicies, he, hmatch⟩
  · rintro ⟨policies, wanted, hpolicies, he, hmatch⟩
    exact ⟨position, policies, wanted, hposition, h.trans hpolicies, he, hmatch⟩

/-- The names of resolvers that can be read from an array are identifiers when one of its items is
not a string, for then none is read, or when all of them are identifiers. -/
theorem resolverNamesNormalized_of_array {items : List Json}
    (h : ast.allowedResolvers = WorkflowAst.strings (some (.array items))) :
    resolverNamesNormalized ast = true ↔
      items.all Json.isString = false ∨
        ∀ item ∈ items, ∃ name, item = .string name ∧ isWorkflowIdentifier name = true := by
  rw [resolverNamesNormalized, h]
  by_cases hs : items.all Json.isString = true
  · obtain ⟨names, rfl⟩ := Json.all_isString_iff.mp hs
    have hread : WorkflowAst.strings (some (.array (names.map .string))) = names := by
      rw [WorkflowAst.strings, Option.bind_some, Json.array?, Option.bind_some,
        Json.mapM_string?_eq_some_iff.mpr rfl, Option.getD_some]
    rw [hread, hs, List.all_eq_true]
    simp
  · rw [Bool.not_eq_true] at hs
    have hread : WorkflowAst.strings (some (.array items)) = [] :=
      WorkflowAst.strings_of_malformed hs
    rw [hread, hs]
    simp

end WorkflowCheck

namespace ParseOutput

/-- With a malformed field, the assertions that read it are satisfied exactly when their checks
overlook that. One case for each field: what it reads as, and what the checks say of that. -/
theorem ReadOff.isSatisfied_iff {output : ParseOutput} {document j : Json}
    (hread : output.ReadOff document) {field : ParserField}
    (hfield : ParserField.Malformed document field j) {a : Assertion} {kind : AssertionKind}
    (ha : a.Reads kind field) :
    a.IsSatisfied (.ofParseOutput output) ↔ a.Overlooks j kind := by
  obtain ⟨hprinted, -, hrejected⟩ := hfield
  obtain ⟨hkind, hreader, hstep, hpath⟩ := ha
  cases field with
  | name =>
    have hnone : output.ast.name = none := by
      rw [hread.name, hprinted]
      exact Json.string?_eq_none hrejected
    obtain rfl : kind = .workflowNamePresent := by simpa [ParserField.readers] using hreader
    rw [Assertion.isSatisfied_iff_check hkind rfl]
    exact iff_false_intro (WorkflowCheck.workflowNamePresent_of_none hnone)
  | allowedResolvers =>
    have hnil : output.ast.allowedResolvers = [] := by
      rw [hread.allowedResolvers, hprinted]
      exact WorkflowAst.strings_of_malformed hrejected
    obtain rfl | rfl : kind = .allowedResolversListed ∨ kind = .resolverNamesNormalized := by
      simpa [ParserField.readers] using hreader
    · rw [Assertion.isSatisfied_iff_check hkind rfl]
      exact WorkflowCheck.allowedResolversListed_of_nil hnil
    · rw [Assertion.isSatisfied_iff_check hkind rfl]
      refine iff_of_true ?_ trivial
      change Except.ok (WorkflowCheck.resolverNamesNormalized output.ast) = .ok true
      rw [WorkflowCheck.resolverNamesNormalized, hnil, List.all_nil]
  | returnValues =>
    have hnil : output.ast.returnValues = [] := by
      rw [hread.returnValues, hprinted]
      exact WorkflowAst.strings_of_malformed hrejected
    obtain rfl | rfl : kind = .workflowReturnValues ∨ kind = .workflowReturnValuesEmpty := by
      simpa [ParserField.readers] using hreader
    · rw [Assertion.isSatisfied_iff_check hkind rfl]
      exact WorkflowCheck.workflowReturnValues_of_nil hnil
    · rw [Assertion.isSatisfied_iff_check hkind rfl]
      exact WorkflowCheck.workflowReturnValues_of_nil hnil
  | warnings =>
    have hnil : output.status.warnings = [] := by
      have hp : ParseStatus.printedWarnings? document = some j := hprinted
      rw [hread.warnings, hp]
      exact ParseStatus.warningsOf_of_malformed hrejected
    obtain rfl | rfl | rfl :
        kind = .noParseWarnings ∨ kind = .containsWarning ∨ kind = .statusGreaterThan := by
      simpa [ParserField.readers] using hreader
    · rw [Assertion.isSatisfied_iff_check hkind rfl]
      exact WorkflowCheck.noParseWarnings_of_nil hnil
    · rw [Assertion.isSatisfied_iff_check hkind rfl]
      exact iff_false_intro (WorkflowCheck.containsWarning_of_nil hnil)
    · obtain ⟨path, hp, hroot⟩ := hpath rfl
      rw [Assertion.isSatisfied_iff_check hkind rfl]
      exact WorkflowCheck.statusGreaterThan_of_nil hnil hp hroot
  | stepType position =>
    have hnone : (output.ast.step? position).bind WorkflowStep.stepType = none := by
      rw [hread.stepType, hprinted]
      exact Json.string?_eq_none hrejected
    obtain rfl : kind = .stepType := by simpa [ParserField.readers] using hreader
    rw [Assertion.isSatisfied_iff_check hkind rfl]
    exact iff_false_intro (WorkflowCheck.stepText_of_none (hstep position rfl) hnone)
  | stepSaveAs position =>
    have hnone : (output.ast.step? position).bind WorkflowStep.saveAs = none := by
      rw [hread.saveAs, hprinted]
      exact Json.string?_eq_none hrejected
    obtain rfl : kind = .stepSaveAs := by simpa [ParserField.readers] using hreader
    rw [Assertion.isSatisfied_iff_check hkind rfl]
    exact iff_false_intro (WorkflowCheck.stepText_of_none (hstep position rfl) hnone)
  | stepFailurePolicies position =>
    have hpolicies : (output.ast.step? position).bind WorkflowStep.failurePolicies =
        j.object?.bind WorkflowStep.policies? := by
      rw [hread.failurePolicies, hprinted, Option.bind_some]
    obtain rfl : kind = .stepFailurePolicies := by simpa [ParserField.readers] using hreader
    rw [Assertion.isSatisfied_iff_check hkind rfl]
    exact WorkflowCheck.stepFailurePolicies_of_eq (hstep position rfl) hpolicies

/-- The names of the resolvers are found to be identifiers in an array that was printed for them
exactly when one of its items is not a string or when all are identifiers. -/
theorem ReadOff.resolverNamesNormalized_iff {output : ParseOutput} {document : Json}
    (hread : output.ReadOff document) {items : List Json}
    (hprinted : ParserField.allowedResolvers.printed? document = some (.array items))
    {a : Assertion} (hkind : a.kind = AssertionKind.resolverNamesNormalized.name) :
    a.IsSatisfied (.ofParseOutput output) ↔
      items.all Json.isString = false ∨
        ∀ item ∈ items, ∃ name, item = .string name ∧ isWorkflowIdentifier name = true := by
  have hresolvers : output.ast.allowedResolvers = WorkflowAst.strings (some (.array items)) := by
    rw [hread.allowedResolvers, hprinted]
  rw [Assertion.isSatisfied_iff_check hkind rfl,
    ← WorkflowCheck.resolverNamesNormalized_of_array hresolvers]
  change Except.ok (WorkflowCheck.resolverNamesNormalized output.ast) = .ok true ↔ _
  rw [Except.ok.injEq]

/-- In a document that decodes, a malformed field fails the assertions that read it, except for
those that overlook it; and the names of the resolvers pass for identifiers when what was printed
for them is an array with anything but a string in it. -/
theorem isSatisfied_iff_overlooks {origin : Origin} {d : Document} {output : ParseOutput}
    (h : decode origin d = .ok output) :
    ∃ document, d.toJson? = some document ∧
      (∀ (field : ParserField) (j : Json) (a : Assertion) (kind : AssertionKind),
        ParserField.Malformed document field j → a.Reads kind field →
          (a.IsSatisfied (.ofParseOutput output) ↔ a.Overlooks j kind)) ∧
      ∀ (items : List Json) (a : Assertion),
        ParserField.allowedResolvers.printed? document = some (.array items) →
        a.kind = AssertionKind.resolverNamesNormalized.name →
          (a.IsSatisfied (.ofParseOutput output) ↔
            items.all Json.isString = false ∨
              ∀ item ∈ items, ∃ name, item = .string name ∧ isWorkflowIdentifier name = true) := by
  obtain ⟨document, hvalue, hread⟩ := exists_toJson?_of_decode h
  refine ⟨document, hvalue, ?_, ?_⟩
  · intro field j a kind hfield ha
    exact hread.isSatisfied_iff hfield ha
  · intro items a hprinted hkind
    exact hread.resolverNamesNormalized_iff hprinted hkind

/-- A document in which the allowed resolvers are one text. -/
def mistypedResolvers : Document :=
  .object [(some "ast", .object [(some "allowedResolvers", .string "add")] true)] true

/-- The allowed resolvers of `mistypedResolvers` are malformed, and every assertion that looks at
their names is satisfied. -/
theorem isSatisfied_mistypedResolvers :
    ∃ output document, decode .text mistypedResolvers = .ok output ∧
      mistypedResolvers.toJson? = some document ∧
      ParserField.Malformed document .allowedResolvers (.string "add") ∧
      ∀ a : Assertion, a.kind = AssertionKind.resolverNamesNormalized.name →
        a.IsSatisfied (.ofParseOutput output) := by
  have hdecode : decode .text mistypedResolvers = .ok ⟨.empty, ⟨[], []⟩⟩ := by rfl
  obtain ⟨document, hvalue, hoverlooks, -⟩ := isSatisfied_iff_overlooks hdecode
  have hfield : ParserField.Malformed document .allowedResolvers (.string "add") := by
    cases hvalue
    exact ⟨by decide, by decide, by decide⟩
  refine ⟨_, document, hdecode, hvalue, hfield, ?_⟩
  intro a ha
  have hreads : a.Reads .resolverNamesNormalized .allowedResolvers :=
    ⟨ha, by decide, by rintro _ ⟨⟩, by rintro ⟨⟩⟩
  exact (hoverlooks _ _ a _ hfield hreads).mpr trivial

/-- A malformed field does not fail every assertion that reads it. -/
theorem not_unsatisfied_of_malformed :
    ¬ ∀ (origin : Origin) (d : Document) (output : ParseOutput) (document j : Json)
        (field : ParserField) (a : Assertion) (kind : AssertionKind),
      decode origin d = .ok output → d.toJson? = some document →
        ParserField.Malformed document field j → a.Reads kind field →
          ¬ a.IsSatisfied (.ofParseOutput output) := by
  intro h
  have hvalue : mistypedResolvers.toJson? =
      some (.object [("ast", .object [("allowedResolvers", .string "add")])]) := by decide
  have hreads : (Assertion.new "names" "resolver_names_normalized").Reads
      .resolverNamesNormalized .allowedResolvers :=
    ⟨rfl, by decide, by rintro _ ⟨⟩, by rintro ⟨⟩⟩
  have hsatisfied : (Assertion.new "names" "resolver_names_normalized").IsSatisfied
      (.ofParseOutput ⟨.empty, ⟨[], []⟩⟩) := ⟨.resolverNamesNormalized, by decide, rfl⟩
  exact h .text mistypedResolvers ⟨.empty, ⟨[], []⟩⟩ _ (.string "add") .allowedResolvers _ _ rfl
    hvalue ⟨by decide, by decide, by decide⟩ hreads hsatisfied

end ParseOutput

end Certification
