import Certification.Observation.Observe
import Certification.Proofs.Resolver.Trial

/-!
# Discipline of trials

Things that hold of a trial when they hold of its parts: it answers exactly when the resolver panics
in none of its calls, it makes no calls but those of a certain sort, and its answers are of a certain
sort. What is closed in this way under putting trials together holds of an observation when it holds
of the calls that are made in one, by induction on the number of invocations that are left to make.
-/

namespace Certification

variable {σ α β : Type}

namespace Trial

/-- The trial answers exactly when the resolver panics in none of its calls. -/
def AnswersIffCalm (m : Trial σ α) : Prop :=
  ∀ state, (∃ a, (m state).answer = .ok a) ↔ (m state).Calm

/-- The trial makes no calls but those of a sort. -/
def CallsOnly (sort : Call → Prop) (m : Trial σ α) : Prop :=
  ∀ state, ∀ e ∈ (m state).events, sort e.call

/-- The answers of the trial are of a sort. -/
def AnswersOnly (sort : α → Prop) (m : Trial σ α) : Prop :=
  ∀ state a, (m state).answer = .ok a → sort a

/-- A property that a trial put together from others has when they have it. -/
structure Closed (P : (α : Type) → Trial σ α → Prop) : Prop where
  pure : ∀ {α : Type} (a : α), P α (Pure.pure a)
  bind : ∀ {α β : Type} {m : Trial σ α} {f : α → Trial σ β}, P α m → (∀ a, P β (f a)) → P β (m >>= f)

/-- A trial of one call makes that call, and the resolver panics in it if it does not answer. -/
theorem events_ask (call : Call) (operation : σ → Answer α × σ) (state : σ) :
    (ask call operation state).events = [⟨call, !(operation state).1.isOk⟩] := by
  cases h : (operation state).1 <;> simp [ask, h, Except.isOk, Except.toBool]

/-- A trial of one call answers what the operation answers. -/
theorem answer_ask (call : Call) (operation : σ → Answer α × σ) (state : σ) :
    (ask call operation state).answer = (operation state).1 := by
  cases h : (operation state).1 <;> simp [ask, h]

/-- A trial of one call leaves the state that the operation leaves. -/
theorem state_ask (call : Call) (operation : σ → Answer α × σ) (state : σ) :
    (ask call operation state).state = (operation state).2 := by
  cases h : (operation state).1 <;> simp [ask, h]

/-- Nothing that is done without a call adds to the calls of a trial. -/
theorem events_bind_of_silent {m : Trial σ α} {f : α → Trial σ β}
    (hf : ∀ a state, (f a state).events = []) (state : σ) :
    ((m >>= f) state).events = (m state).events := by
  rcases hrun : m state with ⟨answer, after, events⟩
  cases answer with
  | ok a => rw [bind_apply_of_eq f hrun, hf, List.append_nil]
  | error panic => rw [bind_apply_of_error f hrun]

namespace AnswersIffCalm

/-- A trial without calls answers. -/
theorem pure (a : α) : AnswersIffCalm (Pure.pure a : Trial σ α) := by
  intro state
  refine iff_of_true ⟨a, rfl⟩ ?_
  intro e he
  cases he

/-- A call answers unless the resolver panics in it. -/
theorem ask (call : Call) (operation : σ → Answer α × σ) :
    AnswersIffCalm (Trial.ask call operation) := by
  intro state
  constructor
  · rintro ⟨a, ha⟩ e he
    cases ho : (operation state).1 with
    | ok _ =>
      simp only [Trial.ask, ho, List.mem_singleton] at he
      rw [he]
    | error panic => simp [Trial.ask, ho] at ha
  · intro h
    obtain ⟨a, -, ha⟩ := ask_of_calm h
    exact ⟨a, congrArg Trace.answer ha⟩

/-- One trial after the other answers when both do. -/
theorem bind {m : Trial σ α} {f : α → Trial σ β} (hm : AnswersIffCalm m)
    (hf : ∀ a, AnswersIffCalm (f a)) : AnswersIffCalm (m >>= f) := by
  intro state
  have hfirst := hm state
  rcases hrun : m state with ⟨answer, after, events⟩
  rw [hrun] at hfirst
  cases answer with
  | ok a =>
    rw [bind_apply_of_eq f hrun]
    refine (hf a after).trans ⟨?_, ?_⟩
    · intro h e he
      rcases List.mem_append.mp he with he | he
      · exact hfirst.mp ⟨a, rfl⟩ e he
      · exact h e he
    · intro h e he
      exact h e (List.mem_append_right _ he)
  | error panic =>
    rw [bind_apply_of_error f hrun]
    refine iff_of_false ?_ fun h ↦ ?_
    · rintro ⟨_, h⟩
      cases h
    · obtain ⟨_, h⟩ := hfirst.mpr h
      cases h

/-- A trial answers unless the resolver panics when this is so of its parts. -/
theorem closed : Closed fun α (m : Trial σ α) ↦ m.AnswersIffCalm := ⟨pure, bind⟩

end AnswersIffCalm

namespace CallsOnly

variable {sort : Call → Prop}

/-- A trial without calls makes none of another sort. -/
theorem pure (a : α) : CallsOnly sort (Pure.pure a : Trial σ α) := by
  intro state e he
  cases he

/-- A trial of one call makes that call. -/
theorem ask {call : Call} (h : sort call) (operation : σ → Answer α × σ) :
    CallsOnly sort (Trial.ask call operation) := by
  intro state e he
  rw [events_ask, List.mem_singleton] at he
  rw [he]
  exact h

/-- One trial after the other makes the calls of both. -/
theorem bind {m : Trial σ α} {f : α → Trial σ β} (hm : CallsOnly sort m)
    (hf : ∀ a, CallsOnly sort (f a)) : CallsOnly sort (m >>= f) := by
  intro state e he
  have hfirst := hm state
  rcases hrun : m state with ⟨answer, after, events⟩
  rw [hrun] at hfirst
  cases answer with
  | ok a =>
    rw [bind_apply_of_eq f hrun] at he
    rcases List.mem_append.mp he with he | he
    · exact hfirst e he
    · exact hf a after e he
  | error panic =>
    rw [bind_apply_of_error f hrun] at he
    exact hfirst e he

/-- A trial makes calls of a sort when its parts do. -/
theorem closed (sort : Call → Prop) : Closed fun α (m : Trial σ α) ↦ m.CallsOnly sort :=
  ⟨pure, bind⟩

end CallsOnly

namespace AnswersOnly

/-- The answer of a trial without calls. -/
theorem pure {sort : α → Prop} {a : α} (h : sort a) :
    AnswersOnly sort (Pure.pure a : Trial σ α) := by
  intro state a' ha
  cases ha
  exact h

/-- What answers after another trial decides on the sort of the answer. -/
theorem bind {sort : β → Prop} (m : Trial σ α) {f : α → Trial σ β}
    (hf : ∀ a, AnswersOnly sort (f a)) : AnswersOnly sort (m >>= f) := by
  intro state b hb
  rcases hrun : m state with ⟨answer, after, events⟩
  cases answer with
  | ok a =>
    rw [bind_apply_of_eq f hrun] at hb
    exact hf a after b hb
  | error panic =>
    rw [bind_apply_of_error f hrun] at hb
    cases hb

/-- What answers after another trial may rely on the sort of what that answered. -/
theorem chain {sort : α → Prop} {sort' : β → Prop} {m : Trial σ α} {f : α → Trial σ β}
    (hm : AnswersOnly sort m) (hf : ∀ a, sort a → AnswersOnly sort' (f a)) :
    AnswersOnly sort' (m >>= f) := by
  intro state b hb
  rcases hrun : m state with ⟨answer, after, events⟩
  cases answer with
  | ok a =>
    rw [bind_apply_of_eq f hrun] at hb
    exact hf a (hm state a (congrArg Trace.answer hrun)) after b hb
  | error panic =>
    rw [bind_apply_of_error f hrun] at hb
    cases hb

end AnswersOnly

end Trial

/-! ### Observations -/

namespace Trial.Closed

variable {P : (α : Type) → Trial σ α → Prop} (h : Closed P) {r : Resolver σ}

include h

/-- What holds of the questions for it holds of asking for metadata. -/
theorem declaredMetadata (hdeclaration : P _ r.tryDeclaration) (hdescribe : P _ r.tryDescribe) :
    P _ r.declaredMetadata := by
  refine h.bind hdeclaration fun declaration ↦ ?_
  cases declaration with
  | some declaration => exact h.pure _
  | none => exact h.bind hdescribe fun _ ↦ h.pure _

/-- What holds of an invocation holds of rounds of them. -/
theorem invokeRounds (hinvoke : P _ (r.tryInvoke Resolver.emptyInput)) (n : Nat)
    (o : Observation) : P _ (r.invokeRounds n o) := by
  induction n generalizing o with
  | zero => exact h.pure o
  | succ n ih =>
    refine h.bind hinvoke fun settled ↦ ?_
    cases settled with
    | ok output => exact ih _
    | error error => exact h.pure _

/-- What holds of the calls of an observation holds of the observation. -/
theorem observe (hdeclaration : P _ r.tryDeclaration) (hdescribe : P _ r.tryDescribe)
    (hfingerprint : P _ r.tryFingerprint) (hinvoke : P _ (r.tryInvoke Resolver.emptyInput))
    (repetition : Repetition) : P _ (r.observe repetition) := by
  refine h.bind (h.declaredMetadata hdeclaration hdescribe) fun metadata ↦ ?_
  refine h.bind hfingerprint fun before ↦ ?_
  refine h.bind (h.invokeRounds hinvoke _ _) fun o ↦ ?_
  exact h.bind hfingerprint fun after ↦ h.pure _

end Trial.Closed

namespace Resolver

/-- The calls of an observation: questions about the resolver, and invocations with the empty
object. -/
def Observes : Call → Prop
  | .declaration | .describe | .fingerprint => True
  | .invoke input => input = emptyInput
  | .parse _ => False

/-- An observation asks about the resolver and invokes it with the empty object. -/
theorem callsOnly_observe (r : Resolver σ) (repetition : Repetition) :
    (r.observe repetition).CallsOnly Observes :=
  (Trial.CallsOnly.closed Observes).observe (.ask trivial _) (.ask trivial _) (.ask trivial _)
    (.ask (show Observes (.invoke emptyInput) from rfl) _) repetition

end Resolver

end Certification
