import Certification.Check.Workflow
import Certification.Proofs.Chain
import Certification.Proofs.Json.Accessor

/-!
# When the checks of a parsed workflow hold

One law for each check: the check answers yes exactly when the parameters it needs are there, in the
form it needs them in, and the workflow or the status of its parser is as they say.
-/

namespace Certification

/-- A required parameter is there when it is stated. -/
theorem Assertion.require_eq_ok_iff {α : Type} {kind : AssertionKind} {parameter : Parameter}
    {o : Option α} {a : α} : Assertion.require kind parameter o = .ok a ↔ o = some a := by
  cases o <;> simp [Assertion.require]

/-- The strings of an array of nothing but strings. -/
def Json.strings? (j : Json) : Option (List String) := j.array?.bind (·.mapM Json.string?)

/-- The expected strings are there when the expected value is an array of strings. -/
theorem Assertion.expectedStrings_eq_ok_iff {a : Assertion} {kind : AssertionKind}
    {strings : List String} :
    a.expectedStrings kind = .ok strings ↔ a.expected.bind Json.strings? = some strings := by
  simp only [expectedStrings, requireExpected, bind_eq_ok_iff, require_eq_ok_iff]
  constructor
  · rintro ⟨expected, he, hs⟩
    rw [he]
    split at hs
    · next found hf =>
      cases hs
      exact hf
    · cases hs
  · intro h
    obtain ⟨expected, he, hs⟩ := Option.bind_eq_some_iff.mp h
    refine ⟨expected, he, ?_⟩
    change expected.array?.bind (·.mapM Json.string?) = some strings at hs
    rw [hs]

private theorem isSome_and_beq_iff {actual expected : Option String} :
    (actual.isSome && actual == expected) = true ↔
      ∃ text, actual = some text ∧ expected = some text := by
  cases actual with
  | none => simp
  | some text =>
    constructor
    · intro h
      exact ⟨text, rfl, (beq_iff_eq.mp h).symm⟩
    · rintro ⟨text', htext, rfl⟩
      rw [htext]
      exact beq_self_eq_true _

namespace WorkflowCheck

variable {ast : WorkflowAst} {status : ParseStatus} {a : Assertion}

/-- The allowed resolvers are as expected when they have the expected members. -/
theorem allowedResolversListed_eq_true_iff :
    allowedResolversListed ast a = .ok true ↔
      ∃ expected, a.expected.bind Json.strings? = some expected ∧
        sameMembers ast.allowedResolvers expected = true := by
  simp [allowedResolversListed, bind_eq_ok_iff, Assertion.expectedStrings_eq_ok_iff, pure,
    Except.pure]

/-- The returned values are as expected when they have the expected members. -/
theorem workflowReturnValues_eq_true_iff {kind : AssertionKind} :
    workflowReturnValues kind ast a = .ok true ↔
      ∃ expected, a.expected.bind Json.strings? = some expected ∧
        sameMembers ast.returnValues expected = true := by
  simp [workflowReturnValues, bind_eq_ok_iff, Assertion.expectedStrings_eq_ok_iff, pure,
    Except.pure]

/-- The name of the workflow is as expected when it is there and the expected value is that text. -/
theorem workflowNamePresent_eq_true_iff :
    workflowNamePresent ast a = .ok true ↔
      ∃ name, ast.name = some name ∧ a.expected = some (.string name) := by
  simp only [workflowNamePresent, Assertion.requireExpected, bind_eq_ok_iff,
    Assertion.require_eq_ok_iff, pure, Except.pure, Except.ok.injEq, isSome_and_beq_iff,
    Json.string?_eq_some_iff]
  constructor
  · rintro ⟨expected, he, name, hname, rfl⟩
    exact ⟨name, hname, he⟩
  · rintro ⟨name, hname, he⟩
    exact ⟨_, he, name, hname, rfl⟩

/-- The warnings are as expected when there are as many as stated, or none if nothing is stated. -/
theorem noParseWarnings_eq_true_iff :
    noParseWarnings status a = .ok true ↔
      (a.expected = none ∧ status.warnings.length = 0) ∨
        a.expected.bind Json.nat? = some status.warnings.length := by
  simp only [noParseWarnings, expectedWarnings, bind_eq_ok_iff, pure, Except.pure,
    Except.ok.injEq, beq_iff_eq]
  cases a.expected with
  | none =>
    constructor
    · rintro ⟨n, hn, hlength⟩
      cases hn
      exact .inl ⟨rfl, hlength⟩
    · rintro (⟨-, hlength⟩ | hn)
      · exact ⟨0, rfl, hlength⟩
      · cases hn
  | some expected =>
    cases hn : expected.nat? with
    | none => simp [hn]
    | some n => simp [hn, eq_comm]

/-- A text of a step is as expected when the step is there with the text, and the expected value is
that text. -/
theorem stepText_eq_true_iff {kind : AssertionKind} {field : WorkflowStep → Option String} :
    stepText kind field ast a = .ok true ↔
      ∃ position text, a.stepIndex = some position ∧
        (ast.step? position).bind field = some text ∧ a.expected = some (.string text) := by
  simp only [stepText, Assertion.requireStepIndex, Assertion.requireExpected, bind_eq_ok_iff,
    Assertion.require_eq_ok_iff, pure, Except.pure, Except.ok.injEq, isSome_and_beq_iff,
    Json.string?_eq_some_iff]
  constructor
  · rintro ⟨position, hp, expected, he, text, htext, rfl⟩
    exact ⟨position, text, hp, htext, he⟩
  · rintro ⟨position, text, hp, htext, he⟩
    exact ⟨position, hp, _, he, text, htext, rfl⟩

/-- The policies of a step are as expected when the step is there and declares policies, and the
expected value is an object whose entries they match. -/
theorem stepFailurePolicies_eq_true_iff :
    stepFailurePolicies ast a = .ok true ↔
      ∃ position policies wanted, a.stepIndex = some position ∧
        (ast.step? position).bind WorkflowStep.failurePolicies = some policies ∧
        a.expected = some (.object wanted) ∧ policiesMatch policies wanted = true := by
  simp only [stepFailurePolicies, Assertion.requireStepIndex, Assertion.requireExpected,
    bind_eq_ok_iff, Assertion.require_eq_ok_iff]
  constructor
  · rintro ⟨position, hp, expected, he, hcheck⟩
    split at hcheck
    · cases hcheck
    · next wanted hw =>
      obtain ⟨policies, hpolicies, hmatch⟩ := (Option.any_eq_true _ _).mp (Except.ok.inj hcheck)
      rw [Json.object?_eq_some_iff.mp hw] at he
      exact ⟨position, policies, wanted, hp, hpolicies, he, hmatch⟩
  · rintro ⟨position, policies, wanted, hp, hpolicies, he, hmatch⟩
    refine ⟨position, hp, _, he, ?_⟩
    simp [Json.object?, hpolicies, hmatch, pure, Except.pure]

/-- A warning is there as expected when the message of one contains the stated text. -/
theorem containsWarning_eq_true_iff :
    containsWarning status a = .ok true ↔
      ∃ needle warning, a.expectedSubstring = some needle ∧ warning ∈ status.warnings ∧
        Text.occursIn (Text.lowerCase needle) (Text.lowerCase warning.message) = true := by
  simp [containsWarning, Assertion.requireSubstring, bind_eq_ok_iff, Assertion.require_eq_ok_iff,
    pure, Except.pure]

/-- A number of the status is as expected when the path leads to a number, the expected value is a
number, and it is less. -/
theorem statusGreaterThan_eq_true_iff :
    statusGreaterThan status a = .ok true ↔
      ∃ expression path threshold value, a.path = some expression ∧
        Path.parse expression = .ok path ∧ a.expected.bind Json.double? = some threshold ∧
        (path.lookup status.tree).bind Json.double? = some value ∧ threshold.lt value = true := by
  simp only [statusGreaterThan, Assertion.requirePath, bind_eq_ok_iff, Assertion.require_eq_ok_iff]
  constructor
  · rintro ⟨expression, hexpr, hcheck⟩
    split at hcheck
    · cases hcheck
    · next path hpath =>
      obtain ⟨expected, he, hrest⟩ := bind_eq_ok_iff.mp hcheck
      split at hrest
      · cases hrest
      · next threshold ht =>
        obtain ⟨value, hv, hlt⟩ := (Option.any_eq_true _ _).mp (Except.ok.inj hrest)
        rw [Assertion.requireExpected, Assertion.require_eq_ok_iff] at he
        exact ⟨expression, path, threshold, value, hexpr, hpath, by rw [he]; exact ht, hv, hlt⟩
  · rintro ⟨expression, path, threshold, value, hexpr, hpath, ht, hv, hlt⟩
    obtain ⟨expected, he, hd⟩ := Option.bind_eq_some_iff.mp ht
    refine ⟨expression, hexpr, ?_⟩
    simp [hpath, Assertion.requireExpected, he, Assertion.require, hd, hv, hlt, pure, Except.pure,
      bind, Except.bind]

end WorkflowCheck

end Certification
