import Certification.Observation.Observe
import Certification.Proofs.Resolver.Discipline
import Certification.Resolver.Program
import Certification.Resolver.Scripted

/-!
# Steady resolvers

A resolver may keep a state and still answer as if it kept none: it is steady when no answer depends
on the calls before it. Whatever calls have been made, panics included, a trial with a steady
resolver comes to the same answer by the same calls; this holds of a trial put together from others
when it holds of them, and so of an observation. A script with one answer of each kind plays a steady
resolver, and so does a program of which the same comes each time.
-/

namespace Certification

variable {σ α β : Type}

namespace Resolver

/-- The states that calls of any kind, in any number and order, lead to from a start. -/
inductive Reaches (r : Resolver σ) (start : σ) : σ → Prop
  | start : Reaches r start start
  | invoke {state : σ} (input : Json) (h : Reaches r start state) :
      Reaches r start (r.invoke input state).2
  | declaration {state : σ} (h : Reaches r start state) : Reaches r start (r.declaration state).2
  | describe {state : σ} (h : Reaches r start state) : Reaches r start (r.describe state).2
  | fingerprint {state : σ} (h : Reaches r start state) : Reaches r start (r.fingerprint state).2
  | parse {state : σ} {parser : String → σ → Answer (Except String ParseOutput) × σ}
      (hp : r.parser = some parser) (source : String) (h : Reaches r start state) :
      Reaches r start (parser source state).2

/-- An operation answers after any calls as it does at the start. -/
def AnswersAlike (r : Resolver σ) (start : σ) (operation : σ → Answer α × σ) : Prop :=
  ∀ state, r.Reaches start state → (operation state).1 = (operation start).1

/-- No answer of the resolver depends on the calls before it. -/
structure IsSteady (r : Resolver σ) (start : σ) : Prop where
  invoke : ∀ input, r.AnswersAlike start (r.invoke input)
  declaration : r.AnswersAlike start r.declaration
  describe : r.AnswersAlike start r.describe
  fingerprint : r.AnswersAlike start r.fingerprint
  parse : ∀ parser, r.parser = some parser → ∀ source, r.AnswersAlike start (parser source)

end Resolver

/-! ### Trials -/

/-- Whatever calls were made before it, the trial comes to the same answer by the same calls, and
what it leaves is again a state that calls lead to. -/
def Trial.RunsAlike (r : Resolver σ) (start : σ) (m : Trial σ α) : Prop :=
  ∃ answer events, ∀ state, r.Reaches start state →
    (m state).answer = answer ∧ (m state).events = events ∧ r.Reaches start (m state).state

namespace Trial.RunsAlike

variable {r : Resolver σ} {start : σ}

private theorem pure (a : α) : RunsAlike r start (Pure.pure a : Trial σ α) :=
  ⟨.ok a, [], fun _ h ↦ ⟨rfl, rfl, h⟩⟩

private theorem ask {operation : σ → Answer α × σ} (call : Call)
    (ha : r.AnswersAlike start operation)
    (hr : ∀ state, r.Reaches start state → r.Reaches start (operation state).2) :
    RunsAlike r start (Trial.ask call operation) := by
  refine ⟨(operation start).1, [⟨call, !(operation start).1.isOk⟩], fun state h ↦ ⟨?_, ?_, ?_⟩⟩
  · rw [answer_ask, ha state h]
  · rw [events_ask, ha state h]
  · rw [state_ask]
    exact hr state h

/-- One trial after the other runs alike when both do. The second one is told only the answer of the
first one, which is the same each time. -/
theorem bind {m : Trial σ α} {f : α → Trial σ β} (hm : RunsAlike r start m)
    (hf : ∀ a, RunsAlike r start (f a)) : RunsAlike r start (m >>= f) := by
  obtain ⟨answer, events, hm⟩ := hm
  cases answer with
  | error panic =>
    refine ⟨.error panic, events, fun state h ↦ ?_⟩
    obtain ⟨ha, he, hs⟩ := hm state h
    rw [bind_apply_of_error f (show m state = ⟨.error panic, (m state).state, events⟩ by
      rw [← ha, ← he])]
    exact ⟨rfl, rfl, hs⟩
  | ok a =>
    obtain ⟨later, laterEvents, hf⟩ := hf a
    refine ⟨later, events ++ laterEvents, fun state h ↦ ?_⟩
    obtain ⟨ha, he, hs⟩ := hm state h
    obtain ⟨ha', he', hs'⟩ := hf _ hs
    rw [bind_apply_of_eq f (show m state = ⟨.ok a, (m state).state, events⟩ by rw [← ha, ← he])]
    exact ⟨ha', congrArg (events ++ ·) he', hs'⟩

/-- A trial runs alike when its parts do. -/
theorem closed : Trial.Closed fun α (m : Trial σ α) ↦ m.RunsAlike r start := ⟨pure, bind⟩

end Trial.RunsAlike

namespace Resolver.IsSteady

variable {r : Resolver σ} {start : σ} (h : r.IsSteady start)

include h

/-- A steady resolver is observed alike each time. -/
theorem runsAlike_observe (repetition : Repetition) : (r.observe repetition).RunsAlike r start :=
  Trial.RunsAlike.closed.observe (.ask _ h.declaration fun _ ↦ .declaration)
    (.ask _ h.describe fun _ ↦ .describe) (.ask _ h.fingerprint fun _ ↦ .fingerprint)
    (.ask _ (h.invoke _) fun _ ↦ .invoke _) repetition

/-- A steady resolver makes the same of a source each time. -/
theorem runsAlike_tryParse {parser : String → σ → Answer (Except String ParseOutput) × σ}
    (hp : r.parser = some parser) (source : String) :
    (tryParse parser source).RunsAlike r start :=
  .ask _ (h.parse parser hp source) fun _ ↦ .parse hp source

end Resolver.IsSteady

/-! ### Scripts -/

namespace Script

private theorem atOrLast_of_length_le {items : List α} (h : items.length ≤ 1) (i j : Nat) :
    atOrLast items i = atOrLast items j := by
  have hz (k : Nat) : min k (items.length - 1) = 0 := by omega
  rw [atOrLast, atOrLast, hz, hz]

/-- A script with one answer of each kind at most plays a steady resolver, although it counts the
calls. -/
theorem isSteady_resolver {s : Script} (hr : s.replies.length ≤ 1)
    (hf : (s.fingerprints.getD []).length ≤ 1) (start : ScriptState) :
    s.resolver.IsSteady start where
  invoke input state _ :=
    congrArg (reply input) (atOrLast_of_length_le hr state.invocations start.invocations)
  declaration _ _ := rfl
  describe _ _ := rfl
  fingerprint state _ := by
    change Except.ok _ = Except.ok _
    rw [atOrLast_of_length_le hf state.snapshots start.snapshots]
  parse parser hp source state _ := by
    obtain ⟨scripted, -, rfl⟩ := Option.map_eq_some_iff.mp hp
    rfl

end Script

/-! ### Programs -/

namespace Program

variable {π : Type} {p : Program π}

private theorem attempt_alike (hp : ∀ operation input a b, (p.run operation input a).1 =
    (p.run operation input b).1) (operation : String) (input : List UInt8)
    (state other : ProgramState π) :
    (p.attempt operation input state).1 = (p.attempt operation input other).1 := by
  have hrun := hp operation input state.inner other.inner
  unfold attempt
  rcases hfirst : p.run operation input state.inner with ⟨first, _⟩
  rcases hsecond : p.run operation input other.inner with ⟨second, _⟩
  rw [hfirst, hsecond] at hrun
  obtain rfl : first = second := hrun
  cases first <;> rfl

/-- No run but the one that is asked for the declaration changes what is remembered of it. -/
theorem declared_attempt (operation : String) (input : List UInt8) (state : ProgramState π) :
    (p.attempt operation input state).2.declared = state.declared := by
  unfold attempt
  split <;> rfl

/-- A program of which the same comes each time it is run is a steady resolver, although it is run
for its declaration only once. -/
theorem isSteady_resolver (hp : ∀ operation input a b, (p.run operation input a).1 =
    (p.run operation input b).1) (inner : π) : p.resolver.IsSteady (start inner) := by
  let declared := (p.attempt "describe" [] (start inner)).1.toOption.bind Exchange.declaration?
  have hdeclaration (state : ProgramState π)
      (h : state.declared = none ∨ state.declared = some declared) :
      p.declaration state = (.ok declared, (p.declaration state).2) ∧
        (p.declaration state).2.declared = some declared := by
    rcases h with h | h
    · have hsame := attempt_alike hp "describe" [] state (start inner)
      simp only [declaration, h, hsame, declared, and_self]
    · simp only [declaration, h, and_self]
  -- Nothing is remembered, or what the first question for the declaration comes to.
  have hremembers (state : ProgramState π) (h : p.resolver.Reaches (start inner) state) :
      state.declared = none ∨ state.declared = some declared := by
    induction h with
    | start => exact .inl rfl
    | invoke input _ ih => exact (declared_attempt _ _ _).symm ▸ ih
    | declaration _ ih => exact .inr (hdeclaration _ ih).2
    | describe _ ih => exact ih
    | fingerprint _ ih => exact ih
    | parse hparser source _ ih =>
      obtain rfl := Option.some.inj hparser
      exact (declared_attempt _ _ _).symm ▸ ih
  exact {
    invoke := fun input state _ ↦ by
      change Except.ok _ = Except.ok _
      rw [attempt_alike hp _ _ state (start inner)]
    declaration := fun state h ↦ by
      change (p.declaration state).1 = (p.declaration (start inner)).1
      rw [(hdeclaration state (hremembers state h)).1, (hdeclaration (start inner) (.inl rfl)).1]
    describe := fun _ _ ↦ rfl
    fingerprint := fun _ _ ↦ rfl
    parse := fun parser hparser source state _ ↦ by
      obtain rfl := Option.some.inj hparser
      change Except.ok _ = Except.ok _
      rw [attempt_alike hp _ _ state (start inner)] }

end Program

end Certification
