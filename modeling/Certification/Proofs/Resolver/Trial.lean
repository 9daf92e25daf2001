import Certification.Resolver.Trial

/-!
# Laws of trials

How a trial is put together from its parts. A trial is calm when the resolver panics in none of its
calls: then every call answers, and so does the trial.
-/

namespace Certification

variable {σ α β : Type}

/-- The resolver panics in no call of a trial. -/
def Trace.Calm (t : Trace σ α) : Prop := ∀ e ∈ t.events, e.panicked = false

namespace Trial

/-- A trial after one that answers goes on from its answer and its state. -/
theorem bind_apply_of_eq {m : Trial σ α} (f : α → Trial σ β) {state after : σ} {a : α}
    {events : List Event} (h : m state = ⟨.ok a, after, events⟩) :
    (m >>= f) state = ⟨(f a after).answer, (f a after).state, events ++ (f a after).events⟩ := by
  change Trial.bind m f state = _
  simp only [Trial.bind, h]

/-- Nothing comes after a trial that ends in a panic. -/
theorem bind_apply_of_error {m : Trial σ α} (f : α → Trial σ β) {state after : σ} {panic : Panic}
    {events : List Event} (h : m state = ⟨.error panic, after, events⟩) :
    (m >>= f) state = ⟨.error panic, after, events⟩ := by
  change Trial.bind m f state = _
  simp only [Trial.bind, h]

/-- The first part of a calm trial is calm. -/
theorem calm_of_calm_bind {m : Trial σ α} {f : α → Trial σ β} {state : σ}
    (h : ((m >>= f) state).Calm) : (m state).Calm := by
  intro e he
  apply h e
  rcases hm : m state with ⟨answer, after, events⟩
  rw [hm] at he
  cases answer with
  | ok a =>
    rw [bind_apply_of_eq f hm]
    exact List.mem_append_left _ he
  | error panic =>
    rw [bind_apply_of_error f hm]
    exact he

/-- The second part of a calm trial is calm. -/
theorem calm_after_of_calm_bind {m : Trial σ α} {f : α → Trial σ β} {state after : σ} {a : α}
    {events : List Event} (hm : m state = ⟨.ok a, after, events⟩)
    (h : ((m >>= f) state).Calm) : (f a after).Calm := by
  intro e he
  apply h e
  rw [bind_apply_of_eq f hm]
  exact List.mem_append_right _ he

/-- A call in which the resolver does not panic answers. -/
theorem ask_of_calm {call : Call} {operation : σ → Answer α × σ} {state : σ}
    (h : (ask call operation state).Calm) :
    ∃ a, (operation state).1 = .ok a ∧
      ask call operation state = ⟨.ok a, (operation state).2, [⟨call, false⟩]⟩ := by
  cases ho : (operation state).1 with
  | ok a => exact ⟨a, rfl, by simp [ask, ho]⟩
  | error panic =>
    have hp := h ⟨call, true⟩ (by simp [ask, ho])
    cases hp

end Trial

namespace Resolver

/-- An invocation in which the resolver does not panic ends with an output or an error. -/
theorem tryInvoke_of_calm {r : Resolver σ} {input : Json} {state : σ}
    (h : (r.tryInvoke input state).Calm) :
    ∃ settled, (r.invoke input state).1 = .ok settled ∧
      r.tryInvoke input state = ⟨.ok settled, (r.invoke input state).2, [⟨.invoke input, false⟩]⟩ :=
  Trial.ask_of_calm h

/-- A fingerprint that is taken without a panic is handed out. -/
theorem tryFingerprint_of_calm {r : Resolver σ} {state : σ} (h : (r.tryFingerprint state).Calm) :
    ∃ fingerprint, (r.fingerprint state).1 = .ok fingerprint ∧
      r.tryFingerprint state =
        ⟨.ok fingerprint, (r.fingerprint state).2, [⟨.fingerprint, false⟩]⟩ :=
  Trial.ask_of_calm h

end Resolver

end Certification
