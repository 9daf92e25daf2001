import Certification.Observation.Basic
import Certification.Resolver.Trial

/-!
# Observing a resolver

A resolver is invoked with the empty object, as often as asked or until it throws, between two
fingerprints of its state. The metadata that it is held against is its declaration, or its
description when it declares nothing.
-/

namespace Certification

namespace Resolver

variable {σ : Type}

/-- What a resolver says about itself: its declaration, else its description
(`declared_metadata`). -/
def declaredMetadata (r : Resolver σ) : Trial σ ResolverContract := do
  match ← r.tryDeclaration with
  | some declaration => pure ⟨declaration⟩
  | none =>
    let description ← r.tryDescribe
    pure ⟨description⟩

/-- The input of every invocation under observation. -/
def emptyInput : Json := .object []

/-- Invokes a resolver a number of times, and no more once it throws. -/
def invokeRounds (r : Resolver σ) : Nat → Observation → Trial σ Observation
  | 0, o => pure o
  | rounds + 1, o => do
    match ← r.tryInvoke emptyInput with
    | .ok output => invokeRounds r rounds (o.recordOutput output)
    | .error error => pure (o.recordError error)

/-- Observes a resolver against given metadata (`RuntimeObserver::observe_with`). -/
def observeWith (r : Resolver σ) (repetition : Repetition) (metadata : ResolverContract) :
    Trial σ Observation := do
  let before ← r.tryFingerprint
  let start := { Observation.start r.name metadata repetition with stateBefore := before }
  let o ← r.invokeRounds repetition.count start
  let after ← r.tryFingerprint
  pure { o with stateAfter := after }

/-- Observes a resolver against its own metadata (`RuntimeObserver::observe`). -/
def observe (r : Resolver σ) (repetition : Repetition) : Trial σ Observation := do
  let metadata ← r.declaredMetadata
  r.observeWith repetition metadata

end Resolver

end Certification
