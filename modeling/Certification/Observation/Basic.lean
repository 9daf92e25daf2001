import Certification.Contract
import Certification.Resolver.Basic
import Certification.Suite.Settings

/-!
# Observations

The evidence of one observation cycle: which metadata the resolver was held against, how often it
was invoked, what it returned or threw, and the fingerprints of its state before and after.
-/

namespace Certification

/-- Where a retry count comes from. -/
inductive RetryEvidence where
  /-- The thrown error reports it. -/
  | reported (count : Nat)
  /-- Nothing is reported, and the declared limit stands in for it. -/
  | inferred (count : Nat)
  deriving DecidableEq, Repr

namespace RetryEvidence

/-- The retry count (`RetryEvidence::count`). -/
def count : RetryEvidence → Nat
  | .reported n | .inferred n => n

/-- Whether the declared limit stands in for the count (`RetryEvidence::is_inferred`). -/
def isInferred : RetryEvidence → Bool
  | .reported _ => false
  | .inferred _ => true

end RetryEvidence

/-- The evidence of one observation cycle (`RuntimeContext`). -/
structure Observation where
  resolverName : String
  metadata : ResolverContract
  repetition : Repetition
  /-- Whether an invocation has ended, with an output or an error. -/
  callable : Bool
  /-- The number of invocations made. -/
  invocations : Nat
  threw : Bool
  error : Option ResolverError
  /-- The output of the last invocation that returned one. -/
  output : Option Json
  outputs : List Json
  /-- The text of each output. -/
  serializedOutputs : List String
  retry : Option RetryEvidence
  stateBefore : Option Json
  stateAfter : Option Json
  deriving DecidableEq

namespace Observation

/-- An observation before the first invocation (`RuntimeContext::new`). -/
def start (resolverName : String) (metadata : ResolverContract) (repetition : Repetition) :
    Observation where
  resolverName := resolverName
  metadata := metadata
  repetition := repetition
  callable := false
  invocations := 0
  threw := false
  error := none
  output := none
  outputs := []
  serializedOutputs := []
  retry := none
  stateBefore := none
  stateAfter := none

/-- The declared retry limit of the code of the thrown error (`declared_retry_limit`). -/
def declaredRetryLimit? (o : Observation) : Option Nat := do
  let error ← o.error
  let code ← error.code
  let failure ← o.metadata.declaredFailure? code
  pure failure.retries

/-- Retry evidence of a thrown error: there is some exactly when a limit is declared for its
code. -/
def evidence? (metadata : ResolverContract) (error : ResolverError) : Option RetryEvidence := do
  let code ← error.code
  let failure ← metadata.declaredFailure? code
  match error.attempts with
  | some attempts => pure (.reported attempts)
  | none => pure (.inferred failure.retries)

/-- The observation with one more invocation that returned an output (`record_output`). -/
def recordOutput (o : Observation) (output : Json) : Observation :=
  { o with
    callable := true
    invocations := o.invocations + 1
    output := some output
    outputs := o.outputs ++ [output]
    serializedOutputs := o.serializedOutputs ++ [output.compact] }

/-- The observation with one more invocation that threw an error (`record_error`). -/
def recordError (o : Observation) (error : ResolverError) : Observation :=
  { o with
    callable := true
    invocations := o.invocations + 1
    threw := true
    error := some error
    retry := evidence? o.metadata error }

end Observation

end Certification
