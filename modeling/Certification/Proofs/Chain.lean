/-!
# Chains of computations

A chain of computations that may fail succeeds when all of its parts do. What can be said of every
result of such a chain, or of every cause for which it fails, is said of its parts: `YieldsOnly` and
`FailsOnly` carry a property of the results, or of the causes, along a chain.
-/

namespace Certification

variable {ε ε' α β : Type}

/-- A chain of two computations succeeds when both do. -/
theorem bind_eq_ok_iff {x : Except ε α} {f : α → Except ε β} {b : β} :
    (x >>= f) = .ok b ↔ ∃ a, x = .ok a ∧ f a = .ok b := by
  cases x with
  | error e => simp [bind, Except.bind]
  | ok a => simp [bind, Except.bind]

/-- A computation whose result is turned into another one succeeds when it does. -/
theorem map_eq_ok_iff {x : Except ε α} {f : α → β} {b : β} :
    f <$> x = .ok b ↔ ∃ a, x = .ok a ∧ f a = b := by
  cases x with
  | error e => simp [Functor.map, Except.map]
  | ok a => simp [Functor.map, Except.map]

/-- A computation that yields a result succeeds with it. -/
theorem eq_ok_of_toOption {x : Except ε α} {a : α} (h : x.toOption = some a) : x = .ok a := by
  cases x with
  | error e => cases h
  | ok a' => exact congrArg Except.ok (Option.some.inj h)

/-- The computation fails only for causes of a sort. -/
def FailsOnly (sort : ε → Prop) (x : Except ε α) : Prop := ∀ e, x = .error e → sort e

namespace FailsOnly

variable {sort : ε → Prop}

/-- What succeeds does not fail. -/
theorem ok (a : α) : FailsOnly sort (.ok a) := by
  intro e h
  cases h

/-- What fails for a cause of the sort. -/
theorem error {e : ε} (h : sort e) : FailsOnly sort (.error e : Except ε α) := by
  intro e' he
  cases he
  exact h

/-- A chain fails where one of its parts does. -/
theorem bind {x : Except ε α} {f : α → Except ε β} (hx : FailsOnly sort x)
    (hf : ∀ a, FailsOnly sort (f a)) : FailsOnly sort (x >>= f) := by
  cases x with
  | ok a => exact hf a
  | error e => exact error (hx e rfl)

/-- What is made of a result does not fail on its own. -/
theorem map {x : Except ε α} (hx : FailsOnly sort x) (f : α → β) :
    FailsOnly sort (x.map f) := by
  cases x with
  | ok a => exact ok _
  | error e => exact error (hx e rfl)

/-- What is made of a cause. -/
theorem mapError {f : ε' → ε} (h : ∀ e, sort (f e)) (x : Except ε' α) :
    FailsOnly sort (x.mapError f) := by
  cases x with
  | ok a => exact ok a
  | error e => exact error (h e)

end FailsOnly

/-- The computation yields only results of a sort. -/
def YieldsOnly (sort : α → Prop) (x : Except ε α) : Prop := ∀ a, x = .ok a → sort a

namespace YieldsOnly

variable {sort : α → Prop} {sort' : β → Prop}

/-- A result of the sort. -/
theorem ok {a : α} (h : sort a) : YieldsOnly sort (.ok a : Except ε α) := by
  intro a' ha
  cases ha
  exact h

/-- What fails yields nothing. -/
theorem error (e : ε) : YieldsOnly sort (.error e : Except ε α) := by
  intro a h
  cases h

/-- A chain yields what its last part yields, given a result of the first one. -/
theorem bind {x : Except ε α} {f : α → Except ε β} (hx : YieldsOnly sort x)
    (hf : ∀ a, sort a → YieldsOnly sort' (f a)) : YieldsOnly sort' (x >>= f) := by
  cases x with
  | ok a => exact hf a (hx a rfl)
  | error e => exact error e

/-- A chain yields what its last part yields, whatever the result of the first one. -/
theorem bind_of_forall {x : Except ε α} {f : α → Except ε β}
    (hf : ∀ a, YieldsOnly sort' (f a)) : YieldsOnly sort' (x >>= f) := by
  cases x with
  | ok a => exact hf a
  | error e => exact error e

/-- What is made of a result. -/
theorem map {x : Except ε α} {f : α → β} (hx : YieldsOnly sort x)
    (hf : ∀ a, sort a → sort' (f a)) : YieldsOnly sort' (x.map f) := by
  cases x with
  | ok a => exact ok (hf a (hx a rfl))
  | error e => exact error e

end YieldsOnly

end Certification
