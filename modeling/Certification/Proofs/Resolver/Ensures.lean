import Certification.Proofs.Resolver.Discipline

/-!
# What a trial ensures

Contracts of trials. `Trial.Ensures P m Q` says that from a state with `P` the trial `m` does not
end in a panic, and that its answer and the state it leaves go together as `Q` says. A contract of
an observation is put together from contracts of the calls in it: what the declaration leaves must
be kept by every call after it, and then the observation is held against that declaration.
-/

namespace Certification

variable {σ α β : Type}

/-- From states with `P` the trial answers, and the answer and the state it leaves are as `Q`
says. -/
def Trial.Ensures (P : σ → Prop) (m : Trial σ α) (Q : α → σ → Prop) : Prop :=
  ∀ state, P state → ∃ a, (m state).answer = .ok a ∧ Q a (m state).state

namespace Trial.Ensures

variable {P : σ → Prop} {Q : α → σ → Prop}

private theorem pure {a : α} (h : ∀ state, P state → Q a state) : Ensures P (Pure.pure a) Q :=
  fun state hs ↦ ⟨a, rfl, h state hs⟩

/-- A trial of one call answers if the operation does. -/
theorem ask {call : Call} {operation : σ → Answer α × σ}
    (h : ∀ state, P state → ∃ a, (operation state).1 = .ok a ∧ Q a (operation state).2) :
    Ensures P (Trial.ask call operation) Q := by
  intro state hs
  rw [answer_ask, state_ask]
  exact h state hs

private theorem bind {m : Trial σ α} {f : α → Trial σ β} {R : β → σ → Prop} (hm : Ensures P m Q)
    (hf : ∀ a, Ensures (Q a) (f a) R) : Ensures P (m >>= f) R := by
  intro state hs
  obtain ⟨a, ha, hq⟩ := hm state hs
  rw [bind_apply_of_eq f (show m state = ⟨.ok a, (m state).state, (m state).events⟩ by rw [← ha])]
  exact hf a _ hq

/-- A contract promises whatever follows from what it promises. -/
theorem weaken {m : Trial σ α} {R : α → σ → Prop} (hm : Ensures P m Q)
    (h : ∀ a state, Q a state → R a state) : Ensures P m R := by
  intro state hs
  obtain ⟨a, ha, hq⟩ := hm state hs
  exact ⟨a, ha, h a _ hq⟩

/-- What does not depend on the state holds after a trial as it does before. -/
theorem frame {m : Trial σ α} {fact : Prop} (hm : Ensures P m Q) :
    Ensures (fun state ↦ fact ∧ P state) m fun a state ↦ fact ∧ Q a state := by
  rintro state ⟨hfact, hs⟩
  obtain ⟨a, ha, hq⟩ := hm state hs
  exact ⟨a, ha, hfact, hq⟩

/-- What all parts of a trial keep the trial keeps. -/
theorem closed (P : σ → Prop) : Closed fun α (m : Trial σ α) ↦ Ensures P m fun _ ↦ P :=
  ⟨fun _ ↦ pure fun _ hs ↦ hs, bind⟩

end Trial.Ensures

/-! ### Observations -/

namespace Resolver

open Trial

variable {r : Resolver σ}

section Kept

variable {P : σ → Prop} (hinvoke : Ensures P (r.tryInvoke emptyInput) fun _ ↦ P)

include hinvoke

private theorem ensures_invokeRounds (n : Nat) (o : Observation) :
    Ensures P (r.invokeRounds n o) fun after state ↦ after.metadata = o.metadata ∧ P state := by
  induction n generalizing o with
  | zero => exact .pure fun _ hs ↦ ⟨rfl, hs⟩
  | succ n ih =>
    refine .bind hinvoke fun settled ↦ ?_
    cases settled with
    | ok output => exact ih (o.recordOutput output)
    | error error => exact .pure fun _ hs ↦ ⟨rfl, hs⟩

private theorem ensures_observeWith (hfingerprint : Ensures P r.tryFingerprint fun _ ↦ P)
    (repetition : Repetition) (metadata : ResolverContract) :
    Ensures P (r.observeWith repetition metadata) fun o state ↦
      o.metadata = metadata ∧ P state := by
  refine .bind hfingerprint fun before ↦ ?_
  refine .bind (ensures_invokeRounds hinvoke _ _) fun o ↦ ?_
  exact .bind hfingerprint.frame fun after ↦ .pure fun _ hs ↦ hs

end Kept

/-- An observation is held against what the resolver declares, or against its description if it
declares nothing, as long as the calls after the declaration keep what that has left. -/
theorem ensures_observe {P : σ → Prop} {Q : Option Json → σ → Prop} {description : Json}
    (hdeclaration : Ensures P r.tryDeclaration Q)
    (hdescribe : Ensures (Q none) r.tryDescribe fun told state ↦
      told = description ∧ Q none state)
    (hfingerprint : ∀ declared, Ensures (Q declared) r.tryFingerprint fun _ ↦ Q declared)
    (hinvoke : ∀ declared, Ensures (Q declared) (r.tryInvoke emptyInput) fun _ ↦ Q declared)
    (repetition : Repetition) :
    Ensures P (r.observe repetition) fun o state ↦
      ∃ declared, Q declared state ∧ o.metadata = ⟨declared.getD description⟩ := by
  have hmetadata : Ensures P r.declaredMetadata fun metadata state ↦
      ∃ declared, Q declared state ∧ metadata = ⟨declared.getD description⟩ := by
    refine .bind hdeclaration fun declared ↦ ?_
    cases declared with
    | some declaration => exact .pure fun _ hs ↦ ⟨some declaration, hs, rfl⟩
    | none =>
      refine .bind hdescribe fun told ↦ .pure ?_
      rintro state ⟨rfl, hs⟩
      exact ⟨none, hs, rfl⟩
  refine .bind hmetadata fun metadata ↦ ?_
  rintro state ⟨declared, hs, rfl⟩
  obtain ⟨o, ho, hheld, hkept⟩ :=
    ensures_observeWith (hinvoke declared) (hfingerprint declared) repetition _ state hs
  exact ⟨o, ho, declared, hkept, hheld⟩

end Resolver

end Certification
