import Certification.Proofs.Assertion.Satisfied
import Certification.Proofs.Check.Faults

/-!
# Complaints about assertions

What is said of an assertion that is not satisfied, and when. There are four causes: no kind has the
name, the target has another shape than the kind examines, a parameter is missing or invalid, and
the check says no. `Assertion.failure?_eq_some_iff` says that the failure of an assertion is the
record of its complaint, so an assertion is satisfied exactly when there is nothing to complain of.
-/

namespace Certification

namespace AssertionKind

/-- A name belongs to a kind when it is the name of that kind. -/
theorem ofName?_eq_some_iff {name : String} {kind : AssertionKind} :
    ofName? name = some kind ↔ name = kind.name := by
  constructor
  · intro h
    exact (name_of_ofName? h).symm
  · rintro rfl
    exact ofName?_name kind

/-- A name belongs to no kind when it is not registered. -/
theorem ofName?_eq_none_iff {name : String} :
    ofName? name = none ↔ name ∉ all.map AssertionKind.name := by
  rw [Option.eq_none_iff_forall_ne_some, List.mem_map]
  constructor
  · rintro h ⟨kind, -, rfl⟩
    exact h kind (ofName?_name kind)
  · intro h kind hk
    exact h ⟨kind, mem_all kind, name_of_ofName? hk⟩

end AssertionKind

namespace Assertion

/-- What is said of an assertion that is not satisfied at a target. -/
inductive Complaint (target : Target) (a : Assertion) : String → Prop where
  | unknownKind (h : a.kind ∉ AssertionKind.all.map AssertionKind.name) :
      Complaint target a ("Unknown assertion type: " ++ a.kind)
  | wrongShape {kind : AssertionKind} (hk : a.kind = kind.name) (hs : kind.shape ≠ target.shape) :
      Complaint target a (AssertionError.incompatibleTarget kind target.shape).message
  | faultyParameter {kind : AssertionKind} {fault : AssertionError} (hk : a.kind = kind.name)
      (hs : kind.shape = target.shape) (hf : kind.ParameterFault fault)
      (hc : kind.check target a = .error fault) : Complaint target a fault.message
  | checkFails {kind : AssertionKind} (hk : a.kind = kind.name) (hs : kind.shape = target.shape)
      (hc : kind.check target a = .ok false) : Complaint target a a.failureMessage

/-- A failure is the record of an assertion that is not satisfied at a target. -/
structure RecordedBy (target : Target) (a : Assertion) (f : Failure) : Prop where
  id : f.id = a.id
  severity : f.severity = a.severity
  message : a.Complaint target f.message

/-- The failure of an assertion of an unknown kind. -/
theorem failure?_of_unknownKind (target : Target) {a : Assertion}
    (h : a.kind ∉ AssertionKind.all.map AssertionKind.name) :
    a.failure? target = some ⟨a.id, a.severity, "Unknown assertion type: " ++ a.kind⟩ := by
  rw [failure?, AssertionKind.ofName?_eq_none_iff.mpr h]
  rfl

/-- The failure of an assertion of a known kind is left by the check of that kind. -/
theorem failure?_of_kind {kind : AssertionKind} {a : Assertion} (h : a.kind = kind.name)
    (target : Target) :
    a.failure? target =
      match kind.checkShaped target a with
      | .ok true => none
      | .ok false => some ⟨a.id, a.severity, a.failureMessage⟩
      | .error fault => some ⟨a.id, a.severity, fault.message⟩ := by
  rw [failure?, AssertionKind.ofName?_eq_some_iff.mpr h]
  rfl

/-- What an assertion leaves is the record of its complaint. -/
theorem failure?_eq_some_iff (target : Target) (a : Assertion) (f : Failure) :
    a.failure? target = some f ↔ a.RecordedBy target f := by
  constructor
  · intro h
    cases hk : AssertionKind.ofName? a.kind with
    | none =>
      have hunknown := AssertionKind.ofName?_eq_none_iff.mp hk
      rw [failure?_of_unknownKind target hunknown] at h
      cases h
      exact ⟨rfl, rfl, .unknownKind hunknown⟩
    | some kind =>
      have hname := AssertionKind.ofName?_eq_some_iff.mp hk
      rw [failure?_of_kind hname, AssertionKind.checkShaped] at h
      by_cases hs : kind.shape = target.shape
      · rw [if_pos hs] at h
        cases hc : kind.check target a with
        | error fault =>
          rw [hc] at h
          cases h
          exact ⟨rfl, rfl, .faultyParameter hname hs (kind.failsOnly_check hs a fault hc) hc⟩
        | ok b =>
          rw [hc] at h
          cases b with
          | true => cases h
          | false =>
            cases h
            exact ⟨rfl, rfl, .checkFails hname hs hc⟩
      · rw [if_neg hs] at h
        cases h
        exact ⟨rfl, rfl, .wrongShape hname hs⟩
  · rintro ⟨hid, hseverity, hmessage⟩
    obtain ⟨id, severity, message⟩ := f
    dsimp only at hid hseverity hmessage
    subst hid hseverity
    cases hmessage with
    | unknownKind h => exact failure?_of_unknownKind target h
    | wrongShape hk hs =>
      rw [failure?_of_kind hk, AssertionKind.checkShaped, if_neg hs]
      rfl
    | faultyParameter hk hs _ hc => rw [failure?_of_kind hk, AssertionKind.checkShaped, if_pos hs, hc]
    | checkFails hk hs hc => rw [failure?_of_kind hk, AssertionKind.checkShaped, if_pos hs, hc]

instance decidableIsSatisfied (target : Target) (a : Assertion) :
    Decidable (a.IsSatisfied target) :=
  decidable_of_iff (a.failure? target = none) (failure?_eq_none_iff target a)

/-- There is something to complain of exactly when the assertion is not satisfied. -/
theorem exists_complaint_iff (target : Target) (a : Assertion) :
    (∃ message, a.Complaint target message) ↔ ¬ a.IsSatisfied target := by
  rw [← failure?_eq_none_iff, ← ne_eq, Option.ne_none_iff_exists']
  constructor
  · rintro ⟨message, h⟩
    exact ⟨_, (failure?_eq_some_iff target a ⟨a.id, a.severity, message⟩).mpr ⟨rfl, rfl, h⟩⟩
  · rintro ⟨f, h⟩
    exact ⟨_, ((failure?_eq_some_iff target a f).mp h).message⟩

end Assertion

end Certification
