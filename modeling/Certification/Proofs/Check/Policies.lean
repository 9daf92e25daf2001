import Certification.Proofs.Check.Steps

/-!
# Failure policies of a step

What a step does for an error code is stated on two sides. The workflow states it in a document, and
its entries are read into policies; an assertion states it in its expected value, which is never
read and is compared entry by entry. The two sides agree: where the document states every policy in
full, the assertion is satisfied exactly when each code that it names is declared with the same
action and the same count.
-/

namespace Certification

namespace FailurePolicy

/-- The value states a policy in full: it is an object in which the action, if there is one, is a
text, and the count, if there is one, is a natural number. -/
structure Stated (j : Json) : Prop where
  object : j.isObject = true
  action : ∀ v, j.get? "action" = some v → v.isString = true
  count : ∀ v, j.get? "count" = some v → v.nat?.isSome = true

/-- Two values state the same policy: each of the action and the count stands in both, and is the
same, or in neither. -/
structure Agree (j j' : Json) : Prop where
  action : j.get? "action" = j'.get? "action"
  count : j.get? "count" = j'.get? "count"

private theorem Agree.refl (j : Json) : Agree j j := ⟨rfl, rfl⟩

/-- Every code that is wanted is declared with the policy that is wanted for it. -/
def Covers (declared wanted : List (String × Json)) : Prop :=
  ∀ e ∈ wanted, ∃ j, declared.lookup e.1 = some j ∧ Agree e.2 j

end FailurePolicy

open FailurePolicy (Stated Agree Covers)

/-- The natural number of a value is there when the value is that number. -/
theorem Json.nat?_eq_some_iff {j : Json} {n : Nat} :
    j.nat? = some n ↔ ∃ h : n < 2 ^ 64, j = .number (.natural ⟨n, h⟩) := by
  constructor
  · intro h
    obtain ⟨number, hnumber, hn⟩ := Option.bind_eq_some_iff.mp h
    cases j with
    | number m =>
      cases hnumber
      cases number with
      | natural m =>
        cases hn
        exact ⟨m.isLt, rfl⟩
      | negative _ => cases hn
      | double _ => cases hn
    | _ => cases hnumber
  · rintro ⟨h, rfl⟩
    rfl

namespace WorkflowCheck

/-- An optional text that was read is the expected one when it was printed as expected. -/
theorem textMatches_iff {printed : Option Json} (h : ∀ v, printed = some v → v.isString = true)
    (expected : Option Json) :
    textMatches (printed.bind Json.string?) expected = true ↔ expected = printed := by
  cases printed with
  | none => cases expected <;> simp [textMatches]
  | some v =>
    obtain ⟨s, hs⟩ := Option.isSome_iff_exists.mp (h v rfl)
    obtain rfl := Json.string?_eq_some_iff.mp hs
    cases expected with
    | none => simp [textMatches, Json.string?]
    | some e => cases e <;> simp [textMatches, Json.string?, eq_comm (a := s)]

/-- An optional count that was read is the expected one when it was printed as expected. -/
theorem countMatches_iff {printed : Option Json}
    (h : ∀ v, printed = some v → v.nat?.isSome = true) (expected : Option Json) :
    countMatches (printed.bind Json.nat?) expected = true ↔ expected = printed := by
  cases printed with
  | none => cases expected <;> simp [countMatches]
  | some v =>
    obtain ⟨n, hn⟩ := Option.isSome_iff_exists.mp (h v rfl)
    rw [Option.bind_some, hn]
    obtain ⟨hlt, rfl⟩ := Json.nat?_eq_some_iff.mp hn
    cases expected with
    | none => simp [countMatches]
    | some e => simp [countMatches, Json.nat?_eq_some_iff, hlt]

end WorkflowCheck

private theorem FailurePolicy.Stated.exists_ofJson? {j : Json} (h : Stated j) :
    ∃ p, ofJson? j = some p ∧
      ∀ wanted, WorkflowCheck.policyMatches p wanted = true ↔ Agree wanted j := by
  obtain ⟨entries, hentries⟩ := Option.isSome_iff_exists.mp h.object
  obtain rfl := Json.object?_eq_some_iff.mp hentries
  refine ⟨_, rfl, fun wanted ↦ ?_⟩
  have haction := WorkflowCheck.textMatches_iff h.action (wanted.get? "action")
  have hcount := WorkflowCheck.countMatches_iff h.count (wanted.get? "count")
  rw [WorkflowCheck.policyMatches, Bool.and_eq_true]
  exact (and_congr haction hcount).trans ⟨fun ⟨ha, hc⟩ ↦ ⟨ha, hc⟩, fun h ↦ ⟨h.action, h.count⟩⟩

namespace WorkflowStep

variable {entries : List (String × Json)} {ps : List (String × FailurePolicy)}

private theorem exists_policies? (h : ∀ e ∈ entries, Stated e.2) :
    ∃ ps, policies? entries = some ps := by
  induction entries with
  | nil => exact ⟨[], rfl⟩
  | cons e rest ih =>
    obtain ⟨he, hrest⟩ := List.forall_mem_cons.mp h
    obtain ⟨p, hp, -⟩ := he.exists_ofJson?
    obtain ⟨ps, hps⟩ := ih hrest
    exact ⟨(e.1, p) :: ps, policies?_eq_some_iff.mpr (.cons ⟨rfl, hp⟩ (policies?_eq_some_iff.mp hps))⟩

private theorem lookup_policies? (h : policies? entries = some ps) (code : String) :
    ps.lookup code = (entries.lookup code).bind FailurePolicy.ofJson? := by
  have hall := policies?_eq_some_iff.mp h
  clear h
  induction hall with
  | nil => rfl
  | @cons e p rest ps hfirst _ ih =>
    obtain ⟨hcode, hpolicy⟩ := hfirst
    rw [List.lookup_cons, List.lookup_cons, hcode]
    cases code == p.1 with
    | true => exact hpolicy.symm
    | false => exact ih

end WorkflowStep

/-- The policies of a step are as wanted when they are declared as wanted. -/
theorem WorkflowCheck.policiesMatch_iff {declared wanted : List (String × Json)}
    {ps : List (String × FailurePolicy)} (hstated : ∀ e ∈ declared, Stated e.2)
    (h : WorkflowStep.policies? declared = some ps) :
    policiesMatch ps wanted = true ↔ Covers declared wanted := by
  rw [policiesMatch, List.all_eq_true]
  refine forall₂_congr fun e _ ↦ ?_
  rw [WorkflowStep.lookup_policies? h]
  cases hfound : declared.lookup e.1 with
  | none => simp
  | some j =>
    obtain ⟨before, after, hsplit, -⟩ := List.lookup_eq_some_iff.mp hfound
    have hj : Stated j := hstated (e.1, j) (by simp [hsplit])
    obtain ⟨p, hp, hmatches⟩ := hj.exists_ofJson?
    simp [hp, hmatches]

/-! ### Outputs -/

/-- The assertion is one about the policies of the step at a position. -/
structure Assertion.WantsPolicies (a : Assertion) (position : Nat)
    (wanted : List (String × Json)) : Prop where
  kind : a.kind = AssertionKind.stepFailurePolicies.name
  step : a.stepIndex = some (position : Int)
  expected : a.expected = some (.object wanted)

namespace ParseOutput

/-- The output was read from a document that prints an object for the policies of the step at a
position, and states each of them in full. -/
structure DeclaresPolicies (output : ParseOutput) (position : Nat)
    (declared : List (String × Json)) : Prop where
  printed : ∃ origin d document, decode origin d = .ok output ∧ d.toJson? = some document ∧
    (ParserField.stepFailurePolicies position).printed? document = some (.object declared)
  stated : ∀ e ∈ declared, Stated e.2

namespace DeclaresPolicies

variable {output : ParseOutput} {position : Nat} {declared wanted : List (String × Json)}
  {a : Assertion}

/-- The declared policies stand in the order of their codes, each code once. -/
theorem increasing (h : output.DeclaresPolicies position declared) : Json.Increasing declared := by
  obtain ⟨_, d, document, -, hvalue, hprinted⟩ := h.printed
  obtain ⟨step, hstep, hpolicies⟩ := Option.bind_eq_some_iff.mp hprinted
  obtain ⟨ast, hast, hstep⟩ := Option.bind_eq_some_iff.mp hstep
  obtain ⟨items, hitems, hitem⟩ := Option.bind_eq_some_iff.mp hstep
  have hsteps : WorkflowAst.printedSteps? document = some items := by
    rw [WorkflowAst.printedSteps?, hast]
    exact hitems
  have hsorted := WorkflowAst.sortedKeys_of_mem_printedSteps
    (Document.sortedKeys_of_toJson? hvalue) hsteps step (List.mem_of_getElem? hitem)
  cases hsorted.of_get? hpolicies with
  | object hi _ => exact hi

private theorem exists_policies? (h : output.DeclaresPolicies position declared) :
    ∃ ps, WorkflowStep.policies? declared = some ps ∧
      (output.ast.step? position).bind WorkflowStep.failurePolicies = some ps := by
  obtain ⟨_, d, document, hdecode, hvalue, hprinted⟩ := h.printed
  obtain ⟨document', hvalue', hread⟩ := exists_toJson?_of_decode hdecode
  obtain rfl : document = document' := Option.some.inj (hvalue.symm.trans hvalue')
  obtain ⟨ps, hps⟩ := WorkflowStep.exists_policies? h.stated
  refine ⟨ps, hps, ?_⟩
  rw [hread.failurePolicies, hprinted]
  exact hps

private theorem checkShaped_eq (h : output.DeclaresPolicies position declared)
    (ha : a.WantsPolicies position wanted) :
    ∃ b, AssertionKind.stepFailurePolicies.checkShaped (.ofParseOutput output) a = .ok b ∧
      (b = true ↔ Covers declared wanted) := by
  obtain ⟨ps, hps, hstep⟩ := h.exists_policies?
  refine ⟨_, ?_, WorkflowCheck.policiesMatch_iff h.stated hps⟩
  change WorkflowCheck.stepFailurePolicies output.ast a = _
  simp [WorkflowCheck.stepFailurePolicies, Assertion.requireStepIndex, Assertion.requireExpected,
    Assertion.require, ha.step, ha.expected, Json.object?, hstep, bind, Except.bind, pure,
    Except.pure]

private theorem isSatisfied_iff (h : output.DeclaresPolicies position declared)
    (ha : a.WantsPolicies position wanted) :
    a.IsSatisfied (.ofParseOutput output) ↔ Covers declared wanted := by
  obtain ⟨b, hb, hcovers⟩ := h.checkShaped_eq ha
  rw [Assertion.isSatisfied_iff_of_kind ha.kind, hb, Except.ok.injEq, hcovers]

private theorem covers_of_subset (h : output.DeclaresPolicies position declared)
    (hsub : wanted ⊆ declared) : Covers declared wanted :=
  fun e he ↦ ⟨e.2, h.increasing.lookup_of_mem (hsub he), .refl _⟩

private theorem covers_of_covers {output' : ParseOutput} {position' : Nat}
    {declared' : List (String × Json)} (h' : output'.DeclaresPolicies position' declared')
    (hsub : declared ⊆ declared') (hcovers : Covers declared wanted) : Covers declared' wanted := by
  intro e he
  obtain ⟨j, hj, hagree⟩ := hcovers e he
  obtain ⟨before, after, hsplit, -⟩ := List.lookup_eq_some_iff.mp hj
  have hmem : (e.1, j) ∈ declared := by simp [hsplit]
  exact ⟨j, h'.increasing.lookup_of_mem (hsub hmem), hagree⟩

end DeclaresPolicies

private theorem declaresPolicies_stepsOutput {items : List Json}
    (hs : ∀ item ∈ items, item.SortedKeys)
    {position : Nat} {item : Json} {declared : List (String × Json)}
    (hitem : items[position]? = some item)
    (hprinted : item.get? "failurePolicies" = some (.object declared))
    (hstated : ∀ e ∈ declared, Stated e.2) :
    (stepsOutput items).DeclaresPolicies position declared := by
  refine ⟨⟨.value, _, _, decode_stepsDocument hs .value, toJson?_stepsDocument hs, ?_⟩, hstated⟩
  change items[position]?.bind (Json.get? "failurePolicies") = _
  rw [hitem]
  exact hprinted

/-- Failure policies match themselves and nothing else. A document with steps that state policies is
read, whatever the other steps are. Where the policies of a step are stated in full, an assertion
about them can be checked, and it is satisfied exactly when every code that it wants is declared with
the same action and the same count. So it is satisfied when it wants what is declared or a part of
that; it is not when it wants a code that is not declared, or an action or a count that was added,
removed or changed; and it stays satisfied when further codes are declared. -/
theorem policies_matchThemselves :
    (∀ (items : List Json) (position : Nat) (item : Json) (declared : List (String × Json)),
      (∀ item ∈ items, item.SortedKeys) → items[position]? = some item →
      item.get? "failurePolicies" = some (.object declared) → (∀ e ∈ declared, Stated e.2) →
      ∃ output, (∀ origin, decode origin (.ofJson (stepsDocument items)) = .ok output) ∧
        output.DeclaresPolicies position declared) ∧
    ∀ (output : ParseOutput) (position : Nat) (declared wanted : List (String × Json))
        (a : Assertion),
      output.DeclaresPolicies position declared → a.WantsPolicies position wanted →
      (∃ b, AssertionKind.stepFailurePolicies.checkShaped (.ofParseOutput output) a = .ok b) ∧
      (a.IsSatisfied (.ofParseOutput output) ↔ Covers declared wanted) ∧
      (wanted ⊆ declared → a.IsSatisfied (.ofParseOutput output)) ∧
      (∀ e ∈ wanted,
        (declared.lookup e.1 = none → ¬ a.IsSatisfied (.ofParseOutput output)) ∧
        ∀ j, declared.lookup e.1 = some j →
          e.2.get? "action" ≠ j.get? "action" ∨ e.2.get? "count" ≠ j.get? "count" →
            ¬ a.IsSatisfied (.ofParseOutput output)) ∧
      ∀ (output' : ParseOutput) (declared' : List (String × Json)),
        output'.DeclaresPolicies position declared' → declared ⊆ declared' →
        a.IsSatisfied (.ofParseOutput output) → a.IsSatisfied (.ofParseOutput output') := by
  constructor
  · intro items position item declared hs hitem hprinted hstated
    exact ⟨_, decode_stepsDocument hs, declaresPolicies_stepsOutput hs hitem hprinted hstated⟩
  intro output position declared wanted a h ha
  obtain ⟨b, hb, -⟩ := h.checkShaped_eq ha
  have hcovers := h.isSatisfied_iff ha
  refine ⟨⟨b, hb⟩, hcovers, fun hsub ↦ hcovers.mpr (h.covers_of_subset hsub), ?_, ?_⟩
  · intro e he
    refine ⟨fun hnone hsatisfied ↦ ?_, fun j hj hdiffers hsatisfied ↦ ?_⟩
    · obtain ⟨j, hj, -⟩ := hcovers.mp hsatisfied e he
      cases hnone.symm.trans hj
    · obtain ⟨j', hj', hagree⟩ := hcovers.mp hsatisfied e he
      obtain rfl : j = j' := Option.some.inj (hj.symm.trans hj')
      exact hdiffers.elim (· hagree.action) (· hagree.count)
  · intro output' declared' h' hsub hsatisfied
    exact (h'.isSatisfied_iff ha).mpr (h'.covers_of_covers hsub (hcovers.mp hsatisfied))

/-- The policies of a step: one code is retried, and for another one only a count is stated. -/
def patient : List (String × Json) :=
  [("E_LIMIT", .object [("count", .ofNat 1), ("note", .string "rare")]),
   ("E_TIMEOUT", .object [("action", .string "retry"), ("count", .ofNat 3)])]

/-- A step without anything and one with these policies. -/
def patientSteps : List Json := [.null, .object [("failurePolicies", .object patient)]]

/-- An assertion that the second step retries a code, so many times if a count is wanted. -/
def retries (count : Option Nat) : Assertion :=
  { Assertion.new "retries" "step_failure_policies" with
    stepIndex := some 1
    expected := some (.object [("E_TIMEOUT",
      .object (("action", .string "retry") :: presentEntries [("count", count.map .ofNat)]))]) }

/-- The second step retries three times; that is not the same as retrying twice or without a count. -/
theorem policies_matchThemselves_patient :
    (stepsOutput patientSteps).DeclaresPolicies 1 patient ∧
      (retries (some 3)).IsSatisfied (.ofParseOutput (stepsOutput patientSteps)) ∧
      ¬ (retries (some 2)).IsSatisfied (.ofParseOutput (stepsOutput patientSteps)) ∧
      ¬ (retries none).IsSatisfied (.ofParseOutput (stepsOutput patientSteps)) := by
  have hpatient : (Json.object patient).SortedKeys := by
    refine .object (List.pairwise_pair.mpr (by decide)) (List.forall_mem_cons.mpr
      ⟨.object (List.pairwise_pair.mpr (by decide)) ?_, List.forall_mem_singleton.mpr
        (.object (List.pairwise_pair.mpr (by decide)) ?_)⟩)
    · exact List.forall_mem_cons.mpr ⟨.number _, List.forall_mem_singleton.mpr (.string _)⟩
    · exact List.forall_mem_cons.mpr ⟨.string _, List.forall_mem_singleton.mpr (.number _)⟩
  have hsteps : ∀ item ∈ patientSteps, item.SortedKeys :=
    List.forall_mem_cons.mpr ⟨.null, List.forall_mem_singleton.mpr
      (.object (List.pairwise_singleton _ _) (List.forall_mem_singleton.mpr hpatient))⟩
  have hstated : ∀ e ∈ patient, Stated e.2 := by
    refine List.forall_mem_cons.mpr ⟨⟨rfl, nofun, ?_⟩, List.forall_mem_singleton.mpr ⟨rfl, ?_, ?_⟩⟩
    all_goals
      rintro v hv
      cases hv
      rfl
  obtain ⟨hread, hall⟩ := policies_matchThemselves
  obtain ⟨output, hdecode, hdeclares⟩ :=
    hread patientSteps 1 _ patient hsteps rfl rfl hstated
  obtain rfl : stepsOutput patientSteps = output :=
    Except.ok.inj ((decode_stepsDocument hsteps .value).symm.trans (hdecode .value))
  obtain ⟨-, -, hpart, -, -⟩ := hall _ 1 patient _ (retries (some 3)) hdeclares ⟨rfl, rfl, rfl⟩
  obtain ⟨-, -, -, htwice, -⟩ := hall _ 1 patient _ (retries (some 2)) hdeclares ⟨rfl, rfl, rfl⟩
  obtain ⟨-, -, -, hnever, -⟩ := hall _ 1 patient _ (retries none) hdeclares ⟨rfl, rfl, rfl⟩
  refine ⟨hdeclares, hpart (by decide), ?_, ?_⟩
  · exact (htwice _ List.mem_cons_self).2 _ rfl (.inr (by decide))
  · exact (hnever _ List.mem_cons_self).2 _ rfl (.inr (by decide))

end ParseOutput

end Certification
