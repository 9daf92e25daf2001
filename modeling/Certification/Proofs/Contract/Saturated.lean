import Certification.Proofs.Json.Entries
import Certification.Proofs.Number.Order
import Certification.Proofs.Observation.Retry

/-!
# Saturated retry limits

A declared limit is read as a binary64 number, and then clamped to the limits that there are. No limit
has more than 53 bits, so rounding moves no integer across one of the bounds: an integer is clamped
as it was written, a negative one to zero and a large one to the greatest limit. Attempts are counted
with as many bits as limits, so no attempt is permitted that the integer does not permit.
-/

namespace Certification

namespace ResolverContract

/-- The first of the declared failures that limits the retries of an error code gives an integer. -/
def DeclaresInteger (c : ResolverContract) (code : String) (r : Int) : Prop :=
  ∃ (before : List Json) (entry : Json) (after : List Json) (n : Number),
    c.raw.get? "failures" = some (.array (before ++ entry :: after)) ∧
      (∀ e ∈ before, ¬ Limits e code) ∧ entry.get? "code" = some (.string code) ∧
        entry.get? "retries" = some (.number n) ∧ n.toInt? = some r

variable {c : ResolverContract} {code : String} {r : Int}

private theorem entryRetries?_of_toInt? {entry : Json} {n : Number}
    (hretries : entry.get? "retries" = some (.number n)) (hn : n.toInt? = some r) :
    entryRetries? entry = some (min r.toNat retryBound) := by
  rw [entryRetries?, hretries]
  exact Number.map_clampTo_toDouble? (by decide) hn

namespace DeclaresInteger

variable (h : c.DeclaresInteger code r)

include h

private theorem declaresLimit : c.DeclaresLimit code (min r.toNat retryBound) := by
  obtain ⟨before, entry, after, n, hfailures, hbefore, hcode, hretries, hn⟩ := h
  exact ⟨before, entry, after, hfailures, hbefore, ⟨hcode, n, hretries⟩,
    entryRetries?_of_toInt? hretries hn⟩

private theorem declaredFailure?_eq :
    c.declaredFailure? code = some ⟨code, min r.toNat retryBound⟩ :=
  declaredFailure?_eq_some_iff.mpr ⟨rfl, h.declaresLimit⟩

private theorem declaredRetryLimit?_eq {o : Observation} {error : ResolverError}
    (hmetadata : o.metadata = c) (herror : o.error = some error) (hcode : error.code = some code) :
    o.declaredRetryLimit? = some (min r.toNat retryBound) :=
  Observation.declaredRetryLimit?_eq_some_iff.mpr
    ⟨error, code, herror, hcode, hmetadata ▸ h.declaresLimit⟩

end DeclaresInteger

/-- Declared limits saturate and never wrap. Where the first of the declared failures that limits the
retries of an error code gives an integer, the limit for the code is the integer clamped to 32 bits,
whatever the entries before and after it are; and so it is for an error with the code, whose attempts
are within the limit exactly when they are no more than the integer, or none if it is negative. So of
two declarations with integers, the one with the greater integer does not have the lower limit. -/
theorem declaredLimit_saturates (h : c.DeclaresInteger code r) :
    ∃ limit : Nat, (limit : Int) = max 0 (min r (2 ^ 32 - 1)) ∧
      c.declaredFailure? code = some ⟨code, limit⟩ ∧
      (∀ (o : Observation) (error : ResolverError), o.metadata = c → o.error = some error →
        error.code = some code → o.declaredRetryLimit? = some limit ∧
          ∀ attempts < 2 ^ 32, o.retry = some (.reported attempts) →
            (RuntimeCheck.retryWithinDeclaredLimit o = true ↔ (attempts : Int) ≤ max 0 r)) ∧
      ∀ (c' : ResolverContract) (code' : String) (r' : Int), c'.DeclaresInteger code' r' → r ≤ r' →
        ∃ failure, c'.declaredFailure? code' = some failure ∧ limit ≤ failure.retries := by
  have hbound : retryBound = 2 ^ 32 - 1 := rfl
  refine ⟨min r.toNat retryBound, by omega, h.declaredFailure?_eq, ?_, ?_⟩
  · intro o error hmetadata herror hcode
    have hlimit := h.declaredRetryLimit?_eq hmetadata herror hcode
    refine ⟨hlimit, fun attempts hattempts hretry ↦ ?_⟩
    rw [RuntimeCheck.retryWithinDeclaredLimit, hlimit, hretry, decide_eq_true_eq]
    simp only [RetryEvidence.count]
    omega
  · intro c' code' r' h' hle
    refine ⟨_, h'.declaredFailure?_eq, ?_⟩
    have htoNat : r.toNat ≤ r'.toNat := Int.toNat_le_toNat hle
    exact min_le_min htoNat le_rfl

/-- A declaration of several failures. The first that limits the retries of the code `EBUSY` comes
after one with another code and one with a text, and before one with a small limit. -/
def crowdedDeclaration (retries : Number) : ResolverContract :=
  ⟨.record [("failures", .array
    [.record [("code", .string "EFULL"), ("retries", .ofNat 7)],
      Resolver.busyFailure (.string "many"), Resolver.busyFailure (.number retries),
      Resolver.busyFailure (.ofNat 3)])]⟩

/-- The first number for the code is the one that is given. -/
theorem declaresInteger_crowded {retries : Number} (h : retries.toInt? = some r) :
    (crowdedDeclaration retries).DeclaresInteger "EBUSY" r := by
  have hcode : (Resolver.busyFailure (.number retries)).get? "code" = some (.string "EBUSY") :=
    (Json.get?_record _ _).trans rfl
  have hretries : (Resolver.busyFailure (.number retries)).get? "retries" = some (.number retries) :=
    (Json.get?_record _ _).trans rfl
  refine ⟨[.record [("code", .string "EFULL"), ("retries", .ofNat 7)],
    Resolver.busyFailure (.string "many")], Resolver.busyFailure (.number retries),
    [Resolver.busyFailure (.ofNat 3)], retries, rfl, ?_, hcode, hretries, h⟩
  refine List.forall_mem_cons.mpr ⟨?_, List.forall_mem_singleton.mpr ?_⟩
  · rintro ⟨hother, -⟩
    exact absurd hother (by decide)
  · rintro ⟨-, n, htext⟩
    cases htext

/-- The greatest integer is clamped to the greatest limit, and the least one to zero. -/
theorem declaredLimit_saturates_crowded :
    (crowdedDeclaration (.natural (Fin.last _))).DeclaresInteger "EBUSY" 18446744073709551615 ∧
      (crowdedDeclaration (.natural (Fin.last _))).declaredFailure? "EBUSY" =
        some ⟨"EBUSY", 4294967295⟩ ∧
      (crowdedDeclaration (.negative (Fin.last _))).DeclaresInteger "EBUSY"
        (-9223372036854775808) ∧
      (crowdedDeclaration (.negative (Fin.last _))).declaredFailure? "EBUSY" =
        some ⟨"EBUSY", 0⟩ := by
  have hgreatest : (crowdedDeclaration (.natural (Fin.last _))).DeclaresInteger "EBUSY"
      18446744073709551615 := declaresInteger_crowded rfl
  have hleast : (crowdedDeclaration (.negative (Fin.last _))).DeclaresInteger "EBUSY"
      (-9223372036854775808) := declaresInteger_crowded rfl
  obtain ⟨greatest, hclamped, hfound, -⟩ := declaredLimit_saturates hgreatest
  obtain ⟨least, hclamped', hfound', -⟩ := declaredLimit_saturates hleast
  obtain rfl : greatest = 4294967295 := by omega
  obtain rfl : least = 0 := by omega
  exact ⟨hgreatest, hfound, hleast, hfound'⟩

end ResolverContract

end Certification
