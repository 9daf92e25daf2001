import Certification.Verdict

/-!
# Satisfied assertions

An assertion is satisfied at a target when its kind is known, the target has the shape that the kind
examines, and the check says yes. Every other assertion leaves a failure.
-/

namespace Certification

namespace Assertion

/-- The kind of the assertion is known, and its check holds at a target. -/
def IsSatisfied (target : Target) (a : Assertion) : Prop :=
  ∃ kind, AssertionKind.ofName? a.kind = some kind ∧ kind.checkShaped target a = .ok true

/-- An assertion leaves no failure exactly when it is satisfied. -/
theorem failure?_eq_none_iff (target : Target) (a : Assertion) :
    a.failure? target = none ↔ a.IsSatisfied target := by
  unfold failure? IsSatisfied
  cases hk : AssertionKind.ofName? a.kind with
  | none => simp
  | some kind =>
    cases hc : kind.checkShaped target a with
    | error fault => simp [hc]
    | ok b => cases b <;> simp [hc]

/-- An assertion of a named kind is satisfied when the check of that kind holds. -/
theorem isSatisfied_iff_of_kind {kind : AssertionKind} {a : Assertion} (h : a.kind = kind.name)
    (target : Target) : a.IsSatisfied target ↔ kind.checkShaped target a = .ok true := by
  simp [IsSatisfied, h, AssertionKind.ofName?_name]

/-- At a target of the shape that its kind examines, an assertion is satisfied when the check of the
kind holds. -/
theorem isSatisfied_iff_check {kind : AssertionKind} {a : Assertion} (h : a.kind = kind.name)
    {target : Target} (hs : kind.shape = target.shape) :
    a.IsSatisfied target ↔ kind.check target a = .ok true := by
  rw [isSatisfied_iff_of_kind h, AssertionKind.checkShaped, if_pos hs]

end Assertion

end Certification
