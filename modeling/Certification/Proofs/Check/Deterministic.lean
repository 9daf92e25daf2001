import Certification.Proofs.Json.Arranged
import Certification.Proofs.Json.Distinct
import Certification.Proofs.Suite.Observed
import Certification.Proofs.Text.Utf8
import Certification.Resolver.Program

/-!
# Deterministic outputs

Outputs are compared by their texts. Texts are the same exactly when the values are, so an
observation finds the outputs deterministic exactly when there are two of them or more and all of
them are one value. In which order a program prints the entries of an object makes no difference to
the value.
-/

namespace Certification

/-- Texts of outputs are compared in the place of outputs. -/
theorem RuntimeCheck.deterministicOutput_iff_outputs {o : Observation}
    (h : o.serializedOutputs = o.outputs.map Json.compact) :
    deterministicOutput o = true ↔
      2 ≤ o.outputs.length ∧ ∃ output, ∀ j ∈ o.outputs, j = output := by
  rw [deterministicOutput_eq_true_iff, h, List.length_map]
  refine and_congr_right fun hlength ↦ ?_
  constructor
  · rintro ⟨text, htext⟩
    obtain ⟨first, rest, houtputs⟩ : ∃ first rest, o.outputs = first :: rest :=
      List.exists_cons_of_length_pos (by omega)
    have hfirst : first ∈ o.outputs := by
      rw [houtputs]
      exact List.mem_cons_self
    refine ⟨first, fun j hj ↦ Json.compact_inj.mp ?_⟩
    rw [htext _ (List.mem_map_of_mem hj), htext _ (List.mem_map_of_mem hfirst)]
  · rintro ⟨output, houtput⟩
    refine ⟨output.compact, fun text htext ↦ ?_⟩
    obtain ⟨j, hj, rfl⟩ := List.mem_map.mp htext
    rw [houtput j hj]

namespace Exchange

/-- A run that succeeded and printed a value, with the entries of objects in the order in which they
stand. -/
structure Prints (x : Exchange) (j : Json) : Prop where
  succeeded : x.ending.isSuccess = true
  read : Reading.ofBytes x.output = ⟨.ofJson j, true⟩

private theorem prints_of_fits {x : Exchange} (hsucceeded : x.ending.isSuccess = true) {depth : Nat}
    {j : Json} (h : j.Fits depth) (hdepth : depth ≤ Document.depthLimit)
    (houtput : x.output = Text.Utf8.encode j.compact) : x.Prints j := by
  have hreading : Reading.ofBytes x.output = .ofChars j.write := by
    simp only [houtput, Reading.ofBytes, Text.Utf8.decodeUntilGap_encode, Bool.false_eq_true,
      ↓reduceIte, Json.compact, String.toList_ofList]
  refine ⟨hsucceeded, ?_⟩
  rw [hreading, Reading.ofChars, Document.readFirst_write h hdepth]
  rfl

private theorem Prints.invocation_eq {x : Exchange} {j : Json} (h : x.Prints j) :
    x.invocation = .ok j.canonical := by
  have hdecode : Decoder.ofBytes Decoder.json x.output = .ok j.canonical := by
    simp only [Decoder.ofBytes, Decoder.ofReading, h.read, Decoder.json,
      Document.toJson?_ofJson_eq_canonical]
    rfl
  rw [invocation, h.succeeded, hdecode]
  rfl

end Exchange

namespace Resolver

variable {σ : Type}

/-- Outputs are found to be deterministic exactly when they are. An observation in which no call
panics finds so exactly when two invocations or more returned an output before one threw, and all of
them returned one value. No two values have one text, so none are confused; and programs that print
a value in different orders of its entries return one value, so none are separated by it. -/
theorem deterministicOutput_iff_returned (r : Resolver σ) (repetition : Repetition)
    (metadata : ResolverContract) (state : σ)
    (hcalm : ∀ e ∈ (r.observeWith repetition metadata state).events, e.panicked = false) :
    let settled := r.settlements repetition.count (r.fingerprint state).2
    let returned := (settled.take (settled.findIdx Settlement.throws + 1)).filterMap
      Settlement.output?
    (∃ o, (r.observeWith repetition metadata state).answer = .ok o ∧
      (RuntimeCheck.deterministicOutput o = true ↔
        2 ≤ returned.length ∧ ∃ output, ∀ j ∈ returned, j = output)) ∧
    (∀ j j' : Json, j.compact = j'.compact ↔ j = j') ∧
    (∀ j j' : Json, j.Reordered j' → ∀ x x' : Exchange, x.Prints j → x'.Prints j' →
      ∃ output, x.invocation = .ok output ∧ x'.invocation = .ok output) := by
  intro settled returned
  obtain ⟨o, hanswer, -, hacc, -, -⟩ := r.observeWith_accounts repetition metadata state hcalm
  refine ⟨⟨o, hanswer, ?_⟩, fun _ _ ↦ Json.compact_inj, ?_⟩
  · have houtputs : o.outputs = returned := hacc.outputs
    rw [RuntimeCheck.deterministicOutput_iff_outputs hacc.serializedOutputs, houtputs]
  · intro j j' hreordered x x' hx hx'
    refine ⟨j.canonical, hx.invocation_eq, ?_⟩
    rw [hreordered.canonical_eq]
    exact hx'.invocation_eq

/-- A script that returns zero with one sign and with the other. -/
def wavering : Script where
  name := "wavering"
  replies := [.returns (.number (.double (.zero false))), .returns (.number (.double (.zero true)))]
  declaration := none
  description := none
  fingerprints := none
  parser := none

/-- A run that prints an object with two fields in an order. -/
def printing (first second : String) : Exchange :=
  ⟨Text.Utf8.encode (Json.object [(first, .null), (second, .null)]).compact, [], .exited 0, .zero⟩

/-- Zeros of two signs are not one value, though they compare as equal; objects whose entries are
printed in two orders are. -/
theorem deterministicOutput_iff_returned_wavering :
    (∀ e ∈ (wavering.resolver.observeWith (.repeated 2) ⟨.null⟩ Script.start).events,
      e.panicked = false) ∧
    (∃ o, (wavering.resolver.observeWith (.repeated 2) ⟨.null⟩ Script.start).answer = .ok o ∧
      RuntimeCheck.deterministicOutput o = false) ∧
    (Binary64.zero false).sameValue (.zero true) = true ∧
    ∃ output, (printing "a" "b").invocation = .ok output ∧
      (printing "b" "a").invocation = .ok output := by
  have hcalm : ∀ e ∈ (wavering.resolver.observeWith (.repeated 2) ⟨.null⟩ Script.start).events,
      e.panicked = false := by decide
  have hprints (first second : String) :
      (printing first second).Prints (.object [(first, .null), (second, .null)]) := by
    have hfits : (Json.object [(first, .null), (second, .null)]).Fits 1 := by
      refine .object fun e he ↦ ?_
      rcases List.mem_pair.mp he with rfl | rfl <;> exact .null
    exact Exchange.prints_of_fits rfl hfits (by decide) rfl
  obtain ⟨⟨o, hanswer, hiff⟩, -, horder⟩ :=
    deterministicOutput_iff_returned wavering.resolver (.repeated 2) ⟨.null⟩ Script.start hcalm
  refine ⟨hcalm, ⟨o, hanswer, ?_⟩, by decide, ?_⟩
  · rw [← Bool.not_eq_true, hiff]
    rintro ⟨-, output, houtput⟩
    have hplus := houtput (.number (.double (.zero false))) (by decide)
    have hminus := houtput (.number (.double (.zero true))) (by decide)
    exact absurd (hplus.trans hminus.symm) (by decide)
  · exact horder _ _ (.entries (by decide) (.swap _ _ [])) _ _ (hprints "a" "b") (hprints "b" "a")

end Resolver

end Certification
