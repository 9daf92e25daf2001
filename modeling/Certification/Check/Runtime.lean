import Certification.Observation.Basic

/-!
# Checks of an observation

The checks that read what was observed while a resolver ran. None of them has a parameter.
-/

namespace Certification

namespace RuntimeCheck

/-- An invocation has ended, with an output or an error (`resolver_callable`). -/
def resolverCallable (o : Observation) : Bool := o.callable

/-- A thrown error has a declared code (`failure_code_declared`). -/
def failureCodeDeclared (o : Observation) : Bool :=
  match o.error with
  | none => true
  | some error => error.code.any o.metadata.declaresFailure

/-- The empty input is rejected with an error (`rejects_missing_required_input`). -/
def rejectsMissingRequiredInput (o : Observation) : Bool := o.threw

/-- The retry count stays within the declared limit, if there are both
(`retry_within_declared_limit`). -/
def retryWithinDeclaredLimit (o : Observation) : Bool :=
  match o.declaredRetryLimit?, o.retry with
  | some limit, some evidence => evidence.count ≤ limit
  | _, _ => true

/-- The last output is an object (`output_is_object`). -/
def outputIsObject (o : Observation) : Bool := o.output.any Json.isObject

/-- The last output is an object with every declared output as a key (`output_fields_declared`). -/
def outputFieldsDeclared (o : Observation) : Bool :=
  (o.output.bind Json.object?).any fun entries ↦
    o.metadata.declaredOutputNames.all fun name ↦ (entries.lookup name).isSome

/-- There are two outputs or more, and their texts are all the same (`deterministic_output`). -/
def deterministicOutput (o : Observation) : Bool :=
  match o.serializedOutputs with
  | first :: second :: rest => (second :: rest).all (· == first)
  | _ => false

/-- Equality of two optional values. -/
def sameFingerprint : Option Json → Option Json → Bool
  | none, none => true
  | some before, some after => before.same after
  | _, _ => false

/-- The fingerprint of the state is the same before and after (`no_global_mutation`). -/
def noGlobalMutation (o : Observation) : Bool := sameFingerprint o.stateBefore o.stateAfter

end RuntimeCheck

end Certification
