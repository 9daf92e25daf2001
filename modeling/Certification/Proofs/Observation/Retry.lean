import Certification.Check.Runtime
import Certification.Proofs.Contract.Failures
import Certification.Proofs.Observation.Thrown
import Certification.Proofs.Resolver.Discipline

/-!
# Retry evidence

Retry evidence is recorded together with an error, and the declared limit is looked up a second time
when the evidence is checked. Every round keeps the metadata and keeps the evidence in step with the
error, so both lookups are made in one declaration for one error and find the same limit.
`Resolver.observeWith_retry` says what this comes to for the first error that the resolver throws.
-/

namespace Certification

namespace Observation

/-- The observation is held against given metadata, and its retry evidence is that of its error. -/
structure HeldAgainst (o : Observation) (metadata : ResolverContract) : Prop where
  held : o.metadata = metadata
  retry : o.retry = o.error.bind (evidence? metadata)

variable {o : Observation} {metadata : ResolverContract}

private theorem heldAgainst_start (resolverName : String) (metadata : ResolverContract)
    (repetition : Repetition) (before : Option Json) :
    HeldAgainst { start resolverName metadata repetition with stateBefore := before } metadata :=
  ⟨rfl, rfl⟩

private theorem HeldAgainst.recordOutput (h : o.HeldAgainst metadata) (output : Json) :
    (o.recordOutput output).HeldAgainst metadata :=
  ⟨h.held, h.retry⟩

private theorem HeldAgainst.recordError (h : o.HeldAgainst metadata) (error : ResolverError) :
    (o.recordError error).HeldAgainst metadata :=
  ⟨h.held, congrArg (evidence? · error) h.held⟩

/-- Evidence is what the error reports, or else the limit that is found for its code. -/
theorem evidence?_eq (metadata : ResolverContract) (error : ResolverError) :
    evidence? metadata error = error.code.bind fun code ↦
      (metadata.declaredFailure? code).map fun failure ↦
        error.attempts.elim (.inferred failure.retries) .reported := by
  unfold evidence?
  cases error.code with
  | none => rfl
  | some code =>
    simp only [Option.bind_eq_bind, Option.bind_some]
    cases metadata.declaredFailure? code with
    | none => rfl
    | some failure => cases error.attempts <;> rfl

private theorem evidence?_eq_some_iff {error : ResolverError} {evidence : RetryEvidence} :
    evidence? metadata error = some evidence ↔
      ∃ code limit, error.code = some code ∧ metadata.DeclaresLimit code limit ∧
        evidence = error.attempts.elim (.inferred limit) .reported := by
  simp only [evidence?_eq, Option.bind_eq_some_iff, Option.map_eq_some_iff,
    ResolverContract.declaredFailure?_eq_some_iff]
  constructor
  · rintro ⟨code, hcode, failure, ⟨-, hlimit⟩, rfl⟩
    exact ⟨code, failure.retries, hcode, hlimit, rfl⟩
  · rintro ⟨code, limit, hcode, hlimit, rfl⟩
    exact ⟨code, hcode, ⟨code, limit⟩, ⟨rfl, hlimit⟩, rfl⟩

/-- The limit that the check looks up is the one that is declared for the code of the error. -/
theorem declaredRetryLimit?_eq_some_iff {limit : Nat} :
    o.declaredRetryLimit? = some limit ↔
      ∃ error code, o.error = some error ∧ error.code = some code ∧
        o.metadata.DeclaresLimit code limit := by
  simp only [declaredRetryLimit?, pure, Option.bind_eq_bind, Option.bind_eq_some_iff,
    Option.some.injEq, ResolverContract.declaredFailure?_eq_some_iff]
  constructor
  · rintro ⟨error, herror, code, hcode, failure, ⟨-, hlimit⟩, rfl⟩
    exact ⟨error, code, herror, hcode, hlimit⟩
  · rintro ⟨error, code, herror, hcode, hlimit⟩
    exact ⟨error, herror, code, hcode, ⟨code, limit⟩, ⟨rfl, hlimit⟩, rfl⟩

end Observation

/-- The check fails when there are a limit and evidence, and the evidence counts more. -/
theorem RuntimeCheck.retryWithinDeclaredLimit_eq_false_iff {o : Observation} :
    retryWithinDeclaredLimit o = false ↔
      ∃ limit evidence, o.declaredRetryLimit? = some limit ∧ o.retry = some evidence ∧
        limit < evidence.count := by
  unfold retryWithinDeclaredLimit
  split
  · next limit evidence hlimit hevidence => simp [hlimit, hevidence]
  · next h =>
    refine iff_of_false Bool.false_ne_true.symm ?_
    rintro ⟨limit, evidence, hlimit, hevidence, -⟩
    exact h limit evidence hlimit hevidence

namespace Observation.HeldAgainst

variable {o : Observation} {metadata : ResolverContract} (h : o.HeldAgainst metadata)

include h

private theorem retry_eq_some_iff {evidence : RetryEvidence} :
    o.retry = some evidence ↔
      ∃ error code limit, o.error = some error ∧ error.code = some code ∧
        metadata.DeclaresLimit code limit ∧
          evidence = error.attempts.elim (.inferred limit) .reported := by
  simp only [h.retry, Option.bind_eq_some_iff, evidence?_eq_some_iff, exists_and_left]

/-- There is evidence when there is an error for whose code one of the declared failures limits the
retries. -/
theorem isSome_retry_iff :
    o.retry.isSome = true ↔
      ∃ error code failures, o.error = some error ∧ error.code = some code ∧
        metadata.raw.get? "failures" = some (.array failures) ∧
          ∃ entry ∈ failures, ResolverContract.Limits entry code := by
  simp only [Option.isSome_iff_exists, h.retry_eq_some_iff]
  constructor
  · rintro ⟨-, error, code, limit, herror, hcode, hlimit, -⟩
    obtain ⟨failures, hfailures⟩ := ResolverContract.exists_declaresLimit_iff.mp ⟨limit, hlimit⟩
    exact ⟨error, code, failures, herror, hcode, hfailures⟩
  · rintro ⟨error, code, failures, herror, hcode, hfailures⟩
    obtain ⟨limit, hlimit⟩ := ResolverContract.exists_declaresLimit_iff.mpr ⟨failures, hfailures⟩
    exact ⟨_, error, code, limit, herror, hcode, hlimit, rfl⟩

/-- The check fails when the error reports more attempts than the limit that is declared for its
code. -/
theorem retryWithinDeclaredLimit_eq_false_iff :
    RuntimeCheck.retryWithinDeclaredLimit o = false ↔
      ∃ attempts error code limit, o.retry = some (.reported attempts) ∧ o.error = some error ∧
        error.code = some code ∧ metadata.DeclaresLimit code limit ∧ limit < attempts := by
  simp only [RuntimeCheck.retryWithinDeclaredLimit_eq_false_iff, declaredRetryLimit?_eq_some_iff,
    h.held]
  constructor
  · rintro ⟨limit, evidence, ⟨error, code, herror, hcode, hlimit⟩, hretry, hlt⟩
    obtain ⟨error', code', limit', herror', hcode', hlimit', rfl⟩ := h.retry_eq_some_iff.mp hretry
    -- Both lookups are made for one code, so the limits are one and the same.
    obtain rfl : error = error' := Option.some.inj (herror.symm.trans herror')
    obtain rfl : code = code' := Option.some.inj (hcode.symm.trans hcode')
    obtain rfl : limit = limit' := hlimit.unique hlimit'
    cases hattempts : error.attempts with
    | none =>
      rw [hattempts] at hlt
      exact absurd hlt (Nat.lt_irrefl limit)
    | some attempts =>
      rw [hattempts] at hretry hlt
      exact ⟨attempts, error, code, limit, hretry, herror, hcode, hlimit, hlt⟩
  · rintro ⟨attempts, error, code, limit, hretry, herror, hcode, hlimit, hlt⟩
    exact ⟨limit, .reported attempts, ⟨error, code, herror, hcode, hlimit⟩, hretry, hlt⟩

end Observation.HeldAgainst

namespace Resolver

variable {σ : Type}

private theorem heldAgainst_invokeRounds (r : Resolver σ) {metadata : ResolverContract} (n : Nat)
    {o : Observation} (h : o.HeldAgainst metadata) :
    (r.invokeRounds n o).AnswersOnly (·.HeldAgainst metadata) := by
  induction n generalizing o with
  | zero => exact .pure h
  | succ n ih =>
    refine .bind _ fun settled ↦ ?_
    cases settled with
    | ok output => exact ih (h.recordOutput output)
    | error error => exact .pure (h.recordError error)

/-- An observation is held against the metadata that it is given. -/
theorem heldAgainst_observeWith (r : Resolver σ) (repetition : Repetition)
    (metadata : ResolverContract) :
    (r.observeWith repetition metadata).AnswersOnly (·.HeldAgainst metadata) := by
  refine .bind _ fun before ↦ ?_
  have hstart := Observation.heldAgainst_start r.name metadata repetition before
  refine .chain (r.heldAgainst_invokeRounds repetition.count hstart) fun o ho ↦ ?_
  exact .bind _ fun after ↦ .pure ⟨ho.held, ho.retry⟩

/-- Retry evidence is sound and complete. After an observation in which no call panics there is
evidence exactly when the resolver threw an error for whose code one of the declared failures limits
the retries. It is what the error reports, or else the limit that the first of these failures
declares; and only a report of more attempts than this limit fails the check. -/
theorem observeWith_retry (r : Resolver σ) (repetition : Repetition) (metadata : ResolverContract)
    (state : σ)
    (hcalm : ∀ e ∈ (r.observeWith repetition metadata state).events, e.panicked = false) :
    let thrown? := r.firstThrown? repetition.count (r.fingerprint state).2
    ∃ o, (r.observeWith repetition metadata state).answer = .ok o ∧
      (o.retry.isSome = true ↔
        ∃ error code failures, thrown? = some error ∧ error.code = some code ∧
          metadata.raw.get? "failures" = some (.array failures) ∧
            ∃ entry ∈ failures, ResolverContract.Limits entry code) ∧
      (∀ evidence, o.retry = some evidence ↔
        ∃ error code limit, thrown? = some error ∧ error.code = some code ∧
          metadata.DeclaresLimit code limit ∧
            evidence = error.attempts.elim (.inferred limit) .reported) ∧
      (RuntimeCheck.retryWithinDeclaredLimit o = false ↔
        ∃ attempts error code limit, o.retry = some (.reported attempts) ∧
          thrown? = some error ∧ error.code = some code ∧ metadata.DeclaresLimit code limit ∧
            limit < attempts) := by
  intro thrown?
  obtain ⟨o, hanswer, -, hacc, -, -⟩ := r.observeWith_accounts repetition metadata state hcalm
  have hheld := r.heldAgainst_observeWith repetition metadata state o hanswer
  have herror : o.error = thrown? := error_eq_firstThrown? hacc
  rw [← herror]
  exact ⟨o, hanswer, hheld.isSome_retry_iff, fun _ ↦ hheld.retry_eq_some_iff,
    hheld.retryWithinDeclaredLimit_eq_false_iff⟩

/-- A declared failure with the code `EBUSY`. -/
def busyFailure (retries : Json) : Json :=
  .record [("code", .string "EBUSY"), ("retries", retries)]

/-- A declaration of several failures with one code, the first of which has a text for its limit. -/
def busyDeclaration : ResolverContract :=
  ⟨.record [("failures", .array [busyFailure (.string "many"), busyFailure (.ofNat 3),
    busyFailure (.ofNat 9)])]⟩

/-- A script that returns an output and then throws an error after seven attempts. -/
def busy : Script where
  name := "busy"
  replies := [.returns .null, .throws ⟨some "EBUSY", "still busy", some 7⟩]
  declaration := none
  description := none
  fingerprints := none
  parser := none

/-- The seven attempts of the script are more than the three that the second failure declares; what
the other two failures say does not matter. -/
theorem observeWith_busy :
    (∀ e ∈ (busy.resolver.observeWith (.repeated 4) busyDeclaration Script.start).events,
      e.panicked = false) ∧
    ∃ o, (busy.resolver.observeWith (.repeated 4) busyDeclaration Script.start).answer = .ok o ∧
      o.retry = some (.reported 7) ∧ RuntimeCheck.retryWithinDeclaredLimit o = false := by
  have hcalm : ∀ e ∈ (busy.resolver.observeWith (.repeated 4) busyDeclaration
      Script.start).events, e.panicked = false := by decide
  have hlimit : busyDeclaration.DeclaresLimit "EBUSY" 3 := by
    refine ⟨[busyFailure (.string "many")], busyFailure (.ofNat 3), [busyFailure (.ofNat 9)],
      rfl, ?_, ⟨rfl, _, rfl⟩, by decide +kernel⟩
    intro e he hlimits
    rw [List.mem_singleton.mp he] at hlimits
    obtain ⟨n, hn⟩ := hlimits.retries
    cases hn
  obtain ⟨o, hanswer, -, hevidence, hcheck⟩ :=
    observeWith_retry busy.resolver (.repeated 4) busyDeclaration Script.start hcalm
  have hretry : o.retry = some (.reported 7) :=
    (hevidence _).mpr ⟨_, "EBUSY", 3, rfl, rfl, hlimit, rfl⟩
  refine ⟨hcalm, o, hanswer, hretry, ?_⟩
  exact hcheck.mpr ⟨7, _, "EBUSY", 3, hretry, rfl, rfl, hlimit, by decide⟩

end Resolver

end Certification
