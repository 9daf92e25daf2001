import Certification.Proofs.Assertion.Complaint
import Mathlib.Data.List.Forall2

/-!
# Itemized verdicts

A verdict lists one failure for each assertion that is not satisfied, in the order of the assertions,
and none for any other. No assertion has a say in what is recorded of another one, and severities
are copied but decide nothing. `judge_itemizes` puts these together.
-/

namespace Certification

private theorem failures_judge (assertions : List Assertion) (target : Target) :
    (judge assertions target).failures = assertions.filterMap (Assertion.failure? target) := by
  cases assertions with
  | nil => rfl
  | cons a rest =>
    change (Verdict.ofFailures ((a :: rest).filterMap (Assertion.failure? target))).failures = _
    rw [Verdict.ofFailures]
    split
    · next h => exact (List.isEmpty_iff.mp h).symm
    · rfl

/-- A verdict is positive exactly when it lists no failure. -/
theorem ok_judge_iff (assertions : List Assertion) (target : Target) :
    (judge assertions target).ok = true ↔ (judge assertions target).failures = [] := by
  cases assertions with
  | nil => exact iff_of_true rfl rfl
  | cons a rest =>
    rw [failures_judge]
    change (Verdict.ofFailures ((a :: rest).filterMap (Assertion.failure? target))).ok = true ↔ _
    rw [Verdict.ofFailures]
    split
    · next h => exact iff_of_true rfl (List.isEmpty_iff.mp h)
    · next h =>
      rw [List.isEmpty_iff] at h
      exact iff_of_false Bool.false_ne_true h

/-- A verdict is positive exactly when every assertion is satisfied. -/
theorem ok_judge_iff_forall (assertions : List Assertion) (target : Target) :
    (judge assertions target).ok = true ↔ ∀ a ∈ assertions, a.IsSatisfied target := by
  rw [ok_judge_iff, failures_judge, List.filterMap_eq_nil_iff]
  exact forall₂_congr fun a _ ↦ a.failure?_eq_none_iff target

private theorem failures_judge_append (earlier later : List Assertion) (target : Target) :
    (judge (earlier ++ later) target).failures =
      (judge earlier target).failures ++ (judge later target).failures := by
  simp only [failures_judge, List.filterMap_append]

/-- Assertions that are satisfied can be left out. -/
theorem failures_judge_filter {assertions : List Assertion} {target : Target}
    {p : Assertion → Bool} (h : ∀ a ∈ assertions, p a = false → a.IsSatisfied target) :
    (judge (assertions.filter p) target).failures = (judge assertions target).failures := by
  rw [failures_judge, failures_judge, List.filterMap_filter]
  apply List.filterMap_congr
  intro a ha
  cases hp : p a with
  | true => rfl
  | false => exact ((a.failure?_eq_none_iff target).mpr (h a ha hp)).symm

/-- The failures are records of the assertions that are not satisfied, one for each, in order. -/
theorem forall₂_recordedBy_failures_judge (assertions : List Assertion) (target : Target) :
    List.Forall₂ (Assertion.RecordedBy target)
      (assertions.filter fun a ↦ ¬ a.IsSatisfied target) (judge assertions target).failures := by
  rw [failures_judge]
  induction assertions with
  | nil => exact .nil
  | cons a rest ih =>
    cases hf : a.failure? target with
    | none =>
      have hs := (a.failure?_eq_none_iff target).mp hf
      rwa [List.filter_cons_of_neg (by simpa using hs), List.filterMap_cons_none hf]
    | some f =>
      have hs : ¬ a.IsSatisfied target := by
        rw [← a.failure?_eq_none_iff target, hf]
        exact Option.some_ne_none f
      rw [List.filter_cons_of_pos (by simpa using hs), List.filterMap_cons_some hf]
      exact .cons ((a.failure?_eq_some_iff target f).mp hf) ih

/-! ### Severities -/

/-- The assertion with another severity. -/
def Assertion.withSeverity (a : Assertion) (severity : Severity) : Assertion :=
  { a with severity := severity }

/-- The failure with another severity. -/
def Failure.withSeverity (f : Failure) (severity : Severity) : Failure :=
  { f with severity := severity }

private theorem AssertionKind.check_withSeverity (kind : AssertionKind) (target : Target)
    (a : Assertion)
    (severity : Severity) : kind.check target (a.withSeverity severity) = kind.check target a := by
  cases kind <;> rfl

/-- Another severity of an assertion is another severity of what it leaves, and nothing else. -/
theorem Assertion.failure?_withSeverity (target : Target) (a : Assertion) (severity : Severity) :
    (a.withSeverity severity).failure? target =
      (a.failure? target).map (·.withSeverity severity) := by
  cases hk : AssertionKind.ofName? a.kind with
  | none =>
    have h := AssertionKind.ofName?_eq_none_iff.mp hk
    rw [failure?_of_unknownKind (a := a.withSeverity severity) target h,
      failure?_of_unknownKind target h]
    rfl
  | some kind =>
    have h := AssertionKind.ofName?_eq_some_iff.mp hk
    have hc : kind.checkShaped target (a.withSeverity severity) = kind.checkShaped target a := by
      rw [AssertionKind.checkShaped, AssertionKind.checkShaped, kind.check_withSeverity]
    rw [failure?_of_kind (a := a.withSeverity severity) h, failure?_of_kind h, hc]
    split <;> rfl

/-- Assertions with other severities leave the same failures with other severities. -/
theorem forall₂_withSeverity_failures_judge {assertions others : List Assertion}
    (h : List.Forall₂ (fun a b ↦ ∃ severity, b = a.withSeverity severity) assertions others)
    (target : Target) :
    List.Forall₂ (fun f g ↦ ∃ severity, g = f.withSeverity severity)
      (judge assertions target).failures (judge others target).failures := by
  rw [failures_judge, failures_judge]
  induction h with
  | nil => exact .nil
  | @cons a b rest rest' hab _ ih =>
    obtain ⟨severity, rfl⟩ := hab
    have hb := a.failure?_withSeverity target severity
    cases hf : a.failure? target with
    | none =>
      rw [hf, Option.map_none] at hb
      rwa [List.filterMap_cons_none hf, List.filterMap_cons_none hb]
    | some f =>
      rw [hf, Option.map_some] at hb
      rw [List.filterMap_cons_some hf, List.filterMap_cons_some hb]
      exact .cons ⟨severity, rfl⟩ ih

/-- What a verdict says. Its failures record the assertions that are not satisfied, for one of the
four reasons, one each and in order, and it is positive when there are none. Assertions before and
after others have no influence on the failures of these, so an assertion of an unknown kind is told
where it stands; another order of the assertions is another order of the failures. Other severities
change the severities of the failures and nothing else. -/
theorem judge_itemizes (target : Target) (assertions : List Assertion) :
    List.Forall₂ (Assertion.RecordedBy target)
      (assertions.filter fun a ↦ ¬ a.IsSatisfied target) (judge assertions target).failures ∧
    (∀ a : Assertion, (∃ message, a.Complaint target message) ↔ ¬ a.IsSatisfied target) ∧
    ((judge assertions target).ok = true ↔ (judge assertions target).failures = []) ∧
    ((judge assertions target).ok = true ↔ ∀ a ∈ assertions, a.IsSatisfied target) ∧
    (∀ before after,
      (judge (before ++ assertions ++ after) target).failures =
        (judge before target).failures ++ (judge assertions target).failures ++
          (judge after target).failures) ∧
    (∀ before a after, assertions = before ++ a :: after →
      a.kind ∉ AssertionKind.all.map AssertionKind.name →
        (judge assertions target).failures =
          (judge before target).failures ++
            ⟨a.id, a.severity, "Unknown assertion type: " ++ a.kind⟩ ::
              (judge after target).failures) ∧
    (∀ others, assertions.Perm others →
      (judge assertions target).failures.Perm (judge others target).failures) ∧
    ∀ others, List.Forall₂ (fun a b ↦ ∃ severity, b = a.withSeverity severity) assertions others →
      (judge others target).ok = (judge assertions target).ok ∧
        List.Forall₂ (fun f g ↦ ∃ severity, g = f.withSeverity severity)
          (judge assertions target).failures (judge others target).failures := by
  refine ⟨forall₂_recordedBy_failures_judge assertions target,
    fun a ↦ a.exists_complaint_iff target, ok_judge_iff assertions target,
    ok_judge_iff_forall assertions target, ?_, ?_, ?_, ?_⟩
  · intro before after
    rw [failures_judge_append, failures_judge_append]
  · rintro before a after rfl hunknown
    rw [failures_judge_append, failures_judge (a :: after),
      List.filterMap_cons_some (a.failure?_of_unknownKind target hunknown), ← failures_judge]
  · intro others h
    rw [failures_judge, failures_judge]
    exact h.filterMap _
  · intro others h
    have hfailures := forall₂_withSeverity_failures_judge h target
    refine ⟨?_, hfailures⟩
    rw [Bool.eq_iff_iff, ok_judge_iff, ok_judge_iff, ← List.length_eq_zero_iff,
      ← List.length_eq_zero_iff, hfailures.length_eq]

/-- A severity decides nothing: an assertion of an unknown kind fails as an advisory one, too. -/
example (target : Target) :
    judge [{ Assertion.new "U1" "frobnicate" with severity := .advisory }] target =
      ⟨false, "[advisory] U1: Unknown assertion type: frobnicate",
        [⟨"U1", .advisory, "Unknown assertion type: frobnicate"⟩]⟩ := by
  rfl

end Certification
