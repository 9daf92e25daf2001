import Certification.Contract
import Certification.Proofs.Json.Accessor

/-!
# Declared failures

What a declaration says about an error code. Among the declared failures a code may be repeated, and
entries may be malformed: only an entry with the code and a number of retries limits the retries of
the code, and the first such entry declares the limit. `ResolverContract.declaredFailure?` finds
exactly this limit.
-/

namespace Certification

namespace ResolverContract

/-- The entry limits the retries of an error code: it has the code, and a number of retries. -/
structure Limits (entry : Json) (code : String) : Prop where
  code : entry.get? "code" = some (.string code)
  retries : ∃ n, entry.get? "retries" = some (.number n)

/-- The first of the declared failures that limits the retries of an error code gives the limit. -/
def DeclaresLimit (c : ResolverContract) (code : String) (limit : Nat) : Prop :=
  ∃ (before : List Json) (entry : Json) (after : List Json),
    c.raw.get? "failures" = some (.array (before ++ entry :: after)) ∧
      (∀ e ∈ before, ¬ Limits e code) ∧ Limits entry code ∧ entryRetries? entry = some limit

section Entries

variable {entry : Json} {code : String} {limit : Nat}

/-- The code of an entry is the text that stands under the key. -/
theorem entryCode?_eq_some_iff :
    entryCode? entry = some code ↔ entry.get? "code" = some (.string code) :=
  Json.bind_string?_eq_some_iff

/-- An entry has a retry limit when a number stands under the key. -/
theorem isSome_entryRetries?_iff :
    (entryRetries? entry).isSome = true ↔ ∃ n, entry.get? "retries" = some (.number n) := by
  rw [entryRetries?, Option.isSome_map]
  exact Json.isSome_bind_double?_iff

/-- What the search for a limit makes of an entry. -/
def limitOf? (code : String) (entry : Json) : Option DeclaredFailure :=
  if entryCode? entry = some code then (entryRetries? entry).map (⟨code, ·⟩) else none

/-- The search stops at an entry that limits the retries, with the limit of that entry. -/
theorem limitOf?_eq_some_iff {failure : DeclaredFailure} :
    limitOf? code entry = some failure ↔
      Limits entry code ∧ entryRetries? entry = some failure.retries ∧ failure.code = code := by
  unfold limitOf?
  split
  · next hcode =>
    rw [Option.map_eq_some_iff]
    constructor
    · rintro ⟨limit, hlimit, rfl⟩
      have hnumber := isSome_entryRetries?_iff.mp (Option.isSome_of_eq_some hlimit)
      exact ⟨⟨entryCode?_eq_some_iff.mp hcode, hnumber⟩, hlimit, rfl⟩
    · rintro ⟨-, hlimit, rfl⟩
      exact ⟨_, hlimit, rfl⟩
  · next hcode =>
    refine iff_of_false (Option.some_ne_none _).symm ?_
    rintro ⟨hlimits, -, -⟩
    exact hcode (entryCode?_eq_some_iff.mpr hlimits.code)

/-- The search passes over every other entry. -/
theorem limitOf?_eq_none_iff : limitOf? code entry = none ↔ ¬ Limits entry code := by
  rw [Option.eq_none_iff_forall_ne_some]
  constructor
  · intro h hlimits
    obtain ⟨limit, hlimit⟩ :=
      Option.isSome_iff_exists.mp (isSome_entryRetries?_iff.mpr hlimits.retries)
    exact h ⟨code, limit⟩ (limitOf?_eq_some_iff.mpr ⟨hlimits, hlimit, rfl⟩)
  · intro h failure hfailure
    exact h (limitOf?_eq_some_iff.mp hfailure).1

end Entries

variable {c : ResolverContract} {code : String}

/-- The declared failures are the items of the array under the key. -/
theorem failures?_eq_some_iff {failures : List Json} :
    c.failures? = some failures ↔ c.raw.get? "failures" = some (.array failures) :=
  Json.bind_array?_eq_some_iff

private theorem declaredFailure?_eq_findSome? :
    c.declaredFailure? code = (c.failures?.getD []).findSome? (limitOf? code) := rfl

/-- The declared failure of a code has the code and the limit that is declared for it. -/
theorem declaredFailure?_eq_some_iff {failure : DeclaredFailure} :
    c.declaredFailure? code = some failure ↔
      failure.code = code ∧ c.DeclaresLimit code failure.retries := by
  rw [declaredFailure?_eq_findSome?, List.findSome?_eq_some_iff]
  constructor
  · rintro ⟨before, entry, after, hsplit, hfound, hpassed⟩
    obtain ⟨hlimits, hlimit, hcode⟩ := limitOf?_eq_some_iff.mp hfound
    refine ⟨hcode, before, entry, after, ?_, ?_, hlimits, hlimit⟩
    · rw [← hsplit]
      apply failures?_eq_some_iff.mp
      -- There are failures to be searched, so the key is there.
      cases hfailures : c.failures? with
      | some failures => rfl
      | none => simp [hfailures] at hsplit
    · exact fun e he ↦ limitOf?_eq_none_iff.mp (hpassed e he)
  · rintro ⟨hcode, before, entry, after, hfailures, hpassed, hlimits, hlimit⟩
    refine ⟨before, entry, after, ?_, limitOf?_eq_some_iff.mpr ⟨hlimits, hlimit, hcode⟩, ?_⟩
    · rw [failures?_eq_some_iff.mpr hfailures]
      rfl
    · exact fun e he ↦ limitOf?_eq_none_iff.mpr (hpassed e he)

/-- Only one limit is declared for a code. -/
theorem DeclaresLimit.unique {limit limit' : Nat} (h : c.DeclaresLimit code limit)
    (h' : c.DeclaresLimit code limit') : limit = limit' := by
  have hfound : c.declaredFailure? code = some ⟨code, limit⟩ :=
    declaredFailure?_eq_some_iff.mpr ⟨rfl, h⟩
  have hfound' : c.declaredFailure? code = some ⟨code, limit'⟩ :=
    declaredFailure?_eq_some_iff.mpr ⟨rfl, h'⟩
  exact congrArg DeclaredFailure.retries (Option.some.inj (hfound.symm.trans hfound'))

/-- A limit is declared for a code exactly when one of the failures limits its retries. -/
theorem exists_declaresLimit_iff :
    (∃ limit, c.DeclaresLimit code limit) ↔
      ∃ failures, c.raw.get? "failures" = some (.array failures) ∧
        ∃ entry ∈ failures, Limits entry code := by
  constructor
  · rintro ⟨limit, before, entry, after, hfailures, -, hlimits, -⟩
    exact ⟨_, hfailures, entry, List.mem_append_right _ List.mem_cons_self, hlimits⟩
  · rintro ⟨failures, hfailures, entry, hmem, hlimits⟩
    have hsome : (c.declaredFailure? code).isSome = true := by
      rw [declaredFailure?_eq_findSome?, failures?_eq_some_iff.mpr hfailures,
        Option.getD_some, List.findSome?_isSome_iff]
      exact ⟨entry, hmem, Option.isSome_iff_ne_none.mpr fun hnone ↦
        limitOf?_eq_none_iff.mp hnone hlimits⟩
    obtain ⟨failure, hfailure⟩ := Option.isSome_iff_exists.mp hsome
    exact ⟨failure.retries, (declaredFailure?_eq_some_iff.mp hfailure).2⟩

end ResolverContract

end Certification
