import Certification.Check.Runtime
import Certification.Proofs.Observation.Thrown

/-!
# Rejection of the empty input

The check for rejection asks whether an observation ended with an error, and the check of the output
looks at the last output before that. An observation of several invocations keeps the outputs that
were returned before the error, so the two checks do not exclude each other: they do when there is
only one invocation. `Resolver.observeWith_rejects` says which invocations a rejection stands for.
-/

namespace Certification

open Settlement (returned thrown)

namespace RuntimeCheck

/-- The check of the output asks whether the last output is an object. -/
theorem outputIsObject_iff {o : Observation} :
    outputIsObject o = true ↔ ∃ entries, o.output = some (.object entries) := by
  unfold outputIsObject
  rw [Option.any_eq_true]
  constructor
  · rintro ⟨output, houtput, hobject⟩
    cases output with
    | object entries => exact ⟨entries, houtput⟩
    | _ => cases hobject
  · rintro ⟨entries, houtput⟩
    exact ⟨_, houtput, rfl⟩

end RuntimeCheck

open RuntimeCheck (rejectsMissingRequiredInput outputIsObject)

namespace Observation.Accounts

variable {o : Observation} {settled : List Settlement}

private theorem eq_of_rejects (h : o.Accounts settled) (hr : rejectsMissingRequiredInput o = true) :
    ∃ error, o.error = some error ∧ settled = o.outputs.map returned ++ [thrown error] := by
  obtain ⟨error, herror⟩ := Option.isSome_iff_exists.mp (h.threw.symm.trans hr)
  have hsettled := h.settled_eq
  rw [herror] at hsettled
  exact ⟨error, herror, hsettled⟩

/-- Both checks pass exactly when the invocation right before the one that threw returned an
object. -/
theorem rejects_and_outputIsObject_iff (h : o.Accounts settled) :
    (rejectsMissingRequiredInput o = true ∧ outputIsObject o = true) ↔
      ∃ earlier entries error,
        settled = earlier ++ [returned (.object entries), thrown error] := by
  constructor
  · rintro ⟨hr, hobject⟩
    obtain ⟨error, -, hsettled⟩ := h.eq_of_rejects hr
    obtain ⟨entries, houtput⟩ := RuntimeCheck.outputIsObject_iff.mp hobject
    obtain ⟨outputs, houtputs⟩ := List.getLast?_eq_some_iff.mp (h.output.symm.trans houtput)
    refine ⟨outputs.map returned, entries, error, ?_⟩
    rw [hsettled, houtputs, List.map_append, List.append_assoc]
    rfl
  · rintro ⟨earlier, entries, error, rfl⟩
    have herror : o.error = some error := by
      rw [h.error, List.getLast?_append]
      rfl
    have houtput : o.output = some (.object entries) := by
      rw [h.output, h.outputs, List.filterMap_append, List.getLast?_append]
      rfl
    exact ⟨h.threw.trans (congrArg Option.isSome herror),
      RuntimeCheck.outputIsObject_iff.mpr ⟨entries, houtput⟩⟩

/-- A rejection without an output is one of the first invocation. -/
theorem forall_returned_not_mem_iff (h : o.Accounts settled)
    (hr : rejectsMissingRequiredInput o = true) :
    (∀ output, returned output ∉ settled) ↔ ∃ error, settled.head? = some (thrown error) := by
  obtain ⟨error, -, rfl⟩ := h.eq_of_rejects hr
  cases o.outputs with
  | nil =>
    refine iff_of_true ?_ ⟨error, rfl⟩
    intro output hmem
    cases List.mem_singleton.mp hmem
  | cons output rest =>
    refine iff_of_false ?_ ?_
    · exact fun hnone ↦ hnone output List.mem_cons_self
    · rintro ⟨_, hhead⟩
      cases hhead

private theorem no_output_of_length_le_one (h : o.Accounts settled) (hone : settled.length ≤ 1)
    (hr : rejectsMissingRequiredInput o = true) :
    (∀ output, returned output ∉ settled) ∧ outputIsObject o = false := by
  obtain ⟨error, -, hsettled⟩ := h.eq_of_rejects hr
  have houtputs : o.outputs = [] := by
    rw [hsettled, List.length_append, List.length_map, List.length_singleton] at hone
    exact List.length_eq_zero_iff.mp (by omega)
  constructor
  · rw [h.forall_returned_not_mem_iff hr, hsettled, houtputs]
    exact ⟨error, rfl⟩
  · rw [outputIsObject, h.output, houtputs]
    rfl

end Observation.Accounts

namespace Resolver

variable {σ : Type}

/-- What a rejection says about the invocations of an observation in which no call panics. It stands
for an error that one of the invocations asked for would throw. The last invocation that was made
threw, and all before it returned an output; so none did exactly when the first one threw, and a
rejection goes together with an object for an output exactly when the invocation right before the
last one returned an object. When no more than one invocation is asked for, a rejection means that
there is no output. -/
theorem observeWith_rejects (r : Resolver σ) (repetition : Repetition)
    (metadata : ResolverContract) (state : σ)
    (hcalm : ∀ e ∈ (r.observeWith repetition metadata state).events, e.panicked = false) :
    let settled := r.settlements repetition.count (r.fingerprint state).2
    ∃ o, (r.observeWith repetition metadata state).answer = .ok o ∧
      let made := settled.take o.invocations
      (rejectsMissingRequiredInput o = true ↔ ∃ s ∈ settled, s.throws = true) ∧
      (rejectsMissingRequiredInput o = true →
        ∃ error, made = o.outputs.map returned ++ [thrown error]) ∧
      (rejectsMissingRequiredInput o = true →
        ((∀ output, returned output ∉ made) ↔ ∃ error, made.head? = some (thrown error))) ∧
      ((rejectsMissingRequiredInput o = true ∧ outputIsObject o = true) ↔
        ∃ earlier entries error,
          made = earlier ++ [returned (.object entries), thrown error]) ∧
      (repetition.count ≤ 1 → rejectsMissingRequiredInput o = true →
        (∀ output, returned output ∉ made) ∧ outputIsObject o = false) := by
  intro settled
  obtain ⟨o, hanswer, -, hacc, -, -⟩ := r.observeWith_accounts repetition metadata state hcalm
  refine ⟨o, hanswer, ?_⟩
  intro made
  have htake : made = r.settledUntilThrow repetition.count (r.fingerprint state).2 :=
    (congrArg (List.take · settled) hacc.invocations).trans (r.take_settlements _ _)
  have hmade : o.Accounts made := htake ▸ hacc
  refine ⟨?_, ?_, hmade.forall_returned_not_mem_iff, hmade.rejects_and_outputIsObject_iff, ?_⟩
  · rw [rejectsMissingRequiredInput, hacc.threw, error_eq_firstThrown? hacc, firstThrown?,
      List.findSome?_isSome_iff]
    exact Iff.rfl
  · intro hr
    obtain ⟨error, -, h⟩ := hmade.eq_of_rejects hr
    exact ⟨error, h⟩
  · intro hone
    have hlength : made.length ≤ 1 := calc
      made.length ≤ settled.length := List.length_take_le' _ _
      _ = repetition.count := r.length_settlements _ _
      _ ≤ 1 := hone
    exact hmade.no_output_of_length_le_one hlength

/-- A script that returns an object and then throws. -/
def fickle : Script where
  name := "fickle"
  replies := [.returns (.record [("sum", .ofNat 0)]), .throws (.ofMessage "missing operands")]
  declaration := none
  description := none
  fingerprints := none
  parser := none

/-- When it is invoked twice, the script passes both the check for rejection and that of the
output. -/
theorem observeWith_fickle :
    (∀ e ∈ (fickle.resolver.observeWith (.repeated 2) ⟨.null⟩ Script.start).events,
      e.panicked = false) ∧
    ∃ o, (fickle.resolver.observeWith (.repeated 2) ⟨.null⟩ Script.start).answer = .ok o ∧
      rejectsMissingRequiredInput o = true ∧ outputIsObject o = true := by
  have hcalm : ∀ e ∈ (fickle.resolver.observeWith (.repeated 2) ⟨.null⟩ Script.start).events,
      e.panicked = false := by decide
  obtain ⟨o, hanswer, -, -, -, hboth, -⟩ :=
    observeWith_rejects fickle.resolver (.repeated 2) ⟨.null⟩ Script.start hcalm
  cases hanswer
  exact ⟨hcalm, _, rfl, hboth.mpr ⟨[], _, _, rfl⟩⟩

/-- A rejection neither means that no invocation returned an output nor excludes an object for an
output. -/
theorem not_forall_no_output_of_rejects :
    (¬ ∀ (σ : Type) (r : Resolver σ) (repetition : Repetition) (metadata : ResolverContract)
        (state : σ) (o : Observation),
        (r.observeWith repetition metadata state).answer = .ok o →
        rejectsMissingRequiredInput o = true →
        ∀ output, returned output ∉ r.settlements o.invocations (r.fingerprint state).2) ∧
    ¬ ∀ (σ : Type) (r : Resolver σ) (repetition : Repetition) (metadata : ResolverContract)
        (state : σ) (o : Observation),
        (r.observeWith repetition metadata state).answer = .ok o →
        ¬ (rejectsMissingRequiredInput o = true ∧ outputIsObject o = true) := by
  constructor
  · intro h
    exact h _ fickle.resolver (.repeated 2) ⟨.null⟩ Script.start _ rfl rfl
      (.record [("sum", .ofNat 0)]) (.head _)
  · intro h
    exact h _ fickle.resolver (.repeated 2) ⟨.null⟩ Script.start _ rfl ⟨rfl, rfl⟩

end Resolver

end Certification
