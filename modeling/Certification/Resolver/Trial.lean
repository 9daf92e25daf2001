import Certification.Resolver.Basic

/-!
# Trials

A computation that calls a resolver. A trial starts in a state of the resolver and leaves three
things: what it found out, or the panic that ended it; the state of the resolver afterwards; and its
events, the calls it made in order. A panic ends a trial at once, and the state and the events up to
then stay.
-/

namespace Certification

/-- A call that was made, and whether the resolver panicked in it. -/
structure Event where
  call : Call
  panicked : Bool
  deriving DecidableEq

/-- What a trial leaves. -/
structure Trace (σ α : Type) where
  answer : Answer α
  state : σ
  events : List Event

/-- A computation that calls a resolver with state `σ`. -/
def Trial (σ α : Type) := σ → Trace σ α

namespace Trial

variable {σ α β : Type}

/-- A trial without calls. -/
protected def pure (a : α) : Trial σ α := fun s ↦ ⟨.ok a, s, []⟩

/-- One trial after the other, unless the first one ends in a panic. -/
protected def bind (m : Trial σ α) (f : α → Trial σ β) : Trial σ β := fun s ↦
  let first := m s
  match first.answer with
  | .error p => ⟨.error p, first.state, first.events⟩
  | .ok a =>
    let second := f a first.state
    ⟨second.answer, second.state, first.events ++ second.events⟩

instance : Monad (Trial σ) where
  pure := Trial.pure
  bind := Trial.bind

/-- A trial of one call. -/
def ask (call : Call) (operation : σ → Answer α × σ) : Trial σ α := fun s ↦
  let r := operation s
  match r.1 with
  | .ok a => ⟨.ok a, r.2, [⟨call, false⟩]⟩
  | .error p => ⟨.error p, r.2, [⟨call, true⟩]⟩

/-- Catches the panic of a trial. -/
def catchPanic (m : Trial σ α) : Trial σ (Answer α) := fun s ↦
  let t := m s
  ⟨.ok t.answer, t.state, t.events⟩

end Trial

namespace Resolver

variable {σ : Type}

/-- Invokes a resolver. -/
def tryInvoke (r : Resolver σ) (input : Json) : Trial σ (Except ResolverError Json) :=
  .ask (.invoke input) (r.invoke input)

/-- Asks a resolver for its declaration. -/
def tryDeclaration (r : Resolver σ) : Trial σ (Option Json) := .ask .declaration r.declaration

/-- Asks a resolver for its description. -/
def tryDescribe (r : Resolver σ) : Trial σ Json := .ask .describe r.describe

/-- Asks a resolver for a fingerprint of its state. -/
def tryFingerprint (r : Resolver σ) : Trial σ (Option Json) := .ask .fingerprint r.fingerprint

/-- Parses a source with the parser of a resolver. -/
def tryParse (parser : String → σ → Answer (Except String ParseOutput) × σ) (source : String) :
    Trial σ (Except String ParseOutput) :=
  .ask (.parse source) (parser source)

end Resolver

end Certification
