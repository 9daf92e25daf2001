import Certification.Check.Metadata
import Certification.Proofs.Assertion.Satisfied
import Certification.Proofs.Observation.Retry
import Mathlib.Data.List.Forall2

/-!
# Valid declarations

The checks of a declaration look at every entry, and the checks of an observation pass over the
entries that they cannot read. In a declaration that passes the first there are no such entries: an
error code that is declared has a limit, an output that is declared has a name, and so the checks of
an observation see all that is declared.
-/

namespace Certification

namespace MetadataCheck

/-- A text under a key is there when a string stands under the key. -/
theorem hasString_iff {entry : Json} {key : String} :
    hasString entry key = true ↔ ∃ s, entry.get? key = some (.string s) := by
  rw [hasString, Option.any_eq_true]
  constructor
  · rintro ⟨j, hj, hstring⟩
    obtain ⟨s, hs⟩ := Option.isSome_iff_exists.mp hstring
    exact ⟨s, hj.trans (congrArg some (Json.string?_eq_some_iff.mp hs))⟩
  · rintro ⟨s, hs⟩
    exact ⟨_, hs, rfl⟩

/-- A failure is valid when it limits the retries of a code. -/
theorem failureValid_iff {failure : Json} :
    failureValid failure = true ↔ ∃ code, ResolverContract.Limits failure code := by
  have hnumber : ((failure.get? "retries").bind Json.number?).isSome = true ↔
      ∃ n, failure.get? "retries" = some (.number n) := by
    cases failure.get? "retries" with
    | none => simp
    | some j => cases j <;> simp [Json.number?]
  rw [failureValid, Bool.and_eq_true, hasString_iff, hnumber]
  constructor
  · rintro ⟨⟨code, hcode⟩, hretries⟩
    exact ⟨code, hcode, hretries⟩
  · rintro ⟨code, hlimits⟩
    exact ⟨⟨code, hlimits.code⟩, hlimits.retries⟩

/-- The failures are valid when they are declared and each of them limits the retries of a code. -/
theorem resolverFailuresValid_iff {c : ResolverContract} :
    resolverFailuresValid c = true ↔
      ∃ failures, c.raw.get? "failures" = some (.array failures) ∧
        ∀ failure ∈ failures, ∃ code, ResolverContract.Limits failure code := by
  simp only [resolverFailuresValid, Option.any_eq_true, ResolverContract.failures?_eq_some_iff,
    List.all_eq_true, failureValid_iff]

/-- The outputs are valid when none are declared, or an array of entries that each have a name and a
type. -/
theorem resolverOutputsValid_iff {c : ResolverContract} :
    resolverOutputsValid c = true ↔
      c.raw.get? "outputs" = none ∨ c.raw.get? "outputs" = some .null ∨
        ∃ outputs, c.raw.get? "outputs" = some (.array outputs) ∧
          ∀ output ∈ outputs, (∃ name, output.get? "name" = some (.string name)) ∧
            ∃ type, output.get? "type" = some (.string type) := by
  rw [resolverOutputsValid, ResolverContract.field?]
  cases c.raw.get? "outputs" with
  | none => simp [everyItem]
  | some j => cases j <;> simp [everyItem, outputValid, hasString_iff]

end MetadataCheck

namespace ResolverContract

variable {c : ResolverContract} {code : String}

/-- The entries of the declared outputs. -/
def outputEntries (c : ResolverContract) : List Json := c.outputs?.getD []

/-- A code is declared when one of the failures has it. -/
theorem declaresFailure_iff :
    c.declaresFailure code = true ↔
      ∃ failures, c.raw.get? "failures" = some (.array failures) ∧
        ∃ entry ∈ failures, entry.get? "code" = some (.string code) := by
  rw [declaresFailure, List.any_eq_true]
  simp only [beq_iff_eq, entryCode?_eq_some_iff]
  constructor
  · rintro ⟨entry, hmem, hcode⟩
    cases hfailures : c.failures? with
    | none =>
      rw [hfailures] at hmem
      cases hmem
    | some failures =>
      rw [hfailures] at hmem
      exact ⟨failures, failures?_eq_some_iff.mp hfailures, entry, hmem, hcode⟩
  · rintro ⟨failures, hfailures, entry, hmem, hcode⟩
    rw [failures?_eq_some_iff.mpr hfailures]
    exact ⟨entry, hmem, hcode⟩

/-- A limit is found for a code when one of the failures limits its retries. -/
theorem isSome_declaredFailure?_iff :
    (c.declaredFailure? code).isSome = true ↔
      ∃ failures, c.raw.get? "failures" = some (.array failures) ∧
        ∃ entry ∈ failures, Limits entry code := by
  rw [← exists_declaresLimit_iff, Option.isSome_iff_exists]
  constructor
  · rintro ⟨failure, hfailure⟩
    exact ⟨_, (declaredFailure?_eq_some_iff.mp hfailure).2⟩
  · rintro ⟨limit, hlimit⟩
    exact ⟨⟨code, limit⟩, declaredFailure?_eq_some_iff.mpr ⟨rfl, hlimit⟩⟩

private theorem declaresFailure_iff_of_valid (h : MetadataCheck.resolverFailuresValid c = true) :
    c.declaresFailure code = true ↔ (c.declaredFailure? code).isSome = true := by
  obtain ⟨failures, hfailures, hvalid⟩ := MetadataCheck.resolverFailuresValid_iff.mp h
  rw [declaresFailure_iff, isSome_declaredFailure?_iff]
  refine exists_congr fun declared ↦ and_congr_right fun hdeclared ↦ ?_
  obtain rfl : failures = declared :=
    Json.array.inj (Option.some.inj (hfailures.symm.trans hdeclared))
  refine exists_congr fun entry ↦ and_congr_right fun hmem ↦ ⟨fun hcode ↦ ?_, (·.code)⟩
  obtain ⟨_, hlimits⟩ := hvalid entry hmem
  exact ⟨hcode, hlimits.retries⟩

/-- Where the outputs are valid, each of their entries has a name. -/
theorem exists_name_of_valid (h : MetadataCheck.resolverOutputsValid c = true) {entry : Json}
    (hmem : entry ∈ c.outputEntries) : ∃ name, entry.get? "name" = some (.string name) := by
  obtain ⟨outputs, houtputs, hentry⟩ : ∃ outputs, c.outputs? = some outputs ∧ entry ∈ outputs := by
    cases houtputs : c.outputs? with
    | none =>
      rw [outputEntries, houtputs] at hmem
      cases hmem
    | some outputs =>
      rw [outputEntries, houtputs] at hmem
      exact ⟨outputs, rfl, hmem⟩
  have hdeclared : c.raw.get? "outputs" = some (.array outputs) :=
    Json.bind_array?_eq_some_iff.mp houtputs
  rcases MetadataCheck.resolverOutputsValid_iff.mp h with hnone | hnull | ⟨found, hfound, hvalid⟩
  · cases hnone.symm.trans hdeclared
  · cases hnull.symm.trans hdeclared
  · obtain rfl : found = outputs :=
      Json.array.inj (Option.some.inj (hfound.symm.trans hdeclared))
    exact (hvalid entry hentry).1

private theorem forall₂_entryName? {entries : List Json}
    (h : ∀ entry ∈ entries, ∃ name, entry.get? "name" = some (.string name)) :
    List.Forall₂ (fun entry name ↦ entry.get? "name" = some (.string name)) entries
      (entries.filterMap entryName?) := by
  induction entries with
  | nil => exact .nil
  | cons entry rest ih =>
    obtain ⟨⟨name, hname⟩, hrest⟩ := List.forall_mem_cons.mp h
    have hentry : entryName? entry = some name := Json.bind_string?_eq_some_iff.mpr hname
    rw [List.filterMap_cons_some hentry]
    exact .cons hname (ih hrest)

end ResolverContract

namespace RuntimeCheck

private theorem failureCodeDeclared_of_error {o : Observation} {error : ResolverError}
    (h : o.error = some error) :
    failureCodeDeclared o = true ↔
      ∃ code, error.code = some code ∧ o.metadata.declaresFailure code = true := by
  rw [failureCodeDeclared, h]
  exact Option.any_eq_true _ _

/-- The declared outputs are there when the last output is an object with a value under each of
their names. -/
theorem outputFieldsDeclared_iff {o : Observation} :
    outputFieldsDeclared o = true ↔
      ∃ entries, o.output = some (.object entries) ∧
        ∀ name ∈ o.metadata.declaredOutputNames, (entries.lookup name).isSome = true := by
  rw [outputFieldsDeclared, Option.any_eq_true]
  refine exists_congr fun entries ↦ and_congr ?_ List.all_eq_true
  rw [Option.bind_eq_some_iff]
  constructor
  · rintro ⟨output, houtput, hobject⟩
    rw [houtput, Json.object?_eq_some_iff.mp hobject]
  · intro houtput
    exact ⟨_, houtput, rfl⟩

end RuntimeCheck

/-! ### Observations that are made -/

namespace Observation

/-- The observation is held against given metadata, it has an error if one was thrown, and its output
is the last one that was returned. -/
structure Coherent (o : Observation) (metadata : ResolverContract) : Prop where
  heldAgainst : o.HeldAgainst metadata
  threw : o.threw = o.error.isSome
  output : o.output = o.outputs.getLast?

/-- The observation was made of some resolver, with given metadata or with what the resolver says
about itself. -/
inductive MadeWith (metadata : ResolverContract) (o : Observation) : Prop where
  | given {σ : Type} (r : Resolver σ) (repetition : Repetition) (state : σ)
      (answered : (r.observeWith repetition metadata state).answer = .ok o)
  | own {σ : Type} (r : Resolver σ) (repetition : Repetition) (state : σ)
      (answered : (r.observe repetition state).answer = .ok o) (held : o.metadata = metadata)

end Observation

namespace Resolver

variable {σ : Type} (r : Resolver σ)

private theorem coherent_observeWith (repetition : Repetition) (metadata : ResolverContract) :
    (r.observeWith repetition metadata).AnswersOnly (·.Coherent metadata) := by
  intro state o hanswer
  have hiff : (r.observeWith repetition metadata).AnswersIffCalm :=
    .bind (.ask _ _) fun _ ↦ .bind (Trial.AnswersIffCalm.closed.invokeRounds (.ask _ _) _ _)
      fun _ ↦ .bind (.ask _ _) fun _ ↦ .pure _
  obtain ⟨o', hanswer', -, hacc, -, -⟩ :=
    r.observeWith_accounts repetition metadata state ((hiff state).mp ⟨o, hanswer⟩)
  obtain rfl : o = o' := Except.ok.inj (hanswer.symm.trans hanswer')
  exact ⟨r.heldAgainst_observeWith repetition metadata state o hanswer, hacc.threw, hacc.output⟩

private theorem coherent_observe (repetition : Repetition) :
    (r.observe repetition).AnswersOnly fun o ↦ o.Coherent o.metadata := by
  refine .bind _ fun metadata state o ho ↦ ?_
  have hcoherent := r.coherent_observeWith repetition metadata state o ho
  exact hcoherent.heldAgainst.held.symm ▸ hcoherent

end Resolver

namespace Observation.MadeWith

variable {o : Observation} {c : ResolverContract}

private theorem coherent (h : o.MadeWith c) : o.Coherent c := by
  cases h with
  | given r repetition state answered =>
    exact r.coherent_observeWith repetition c state o answered
  | own r repetition state answered held =>
    exact held ▸ r.coherent_observe repetition state o answered

private theorem failureCodeDeclared_iff (h : o.MadeWith c)
    (hvalid : MetadataCheck.resolverFailuresValid c = true) (hthrew : o.threw = true) :
    RuntimeCheck.failureCodeDeclared o = true ↔ o.retry.isSome = true := by
  obtain ⟨hheld, hthrown, -⟩ := h.coherent
  obtain ⟨error, herror⟩ := Option.isSome_iff_exists.mp (hthrown.symm.trans hthrew)
  rw [RuntimeCheck.failureCodeDeclared_of_error herror, hheld.retry, herror, Option.bind_some,
    Observation.evidence?_eq, Option.isSome_bind, Option.any_eq_true, hheld.held]
  simp only [Option.isSome_map, ResolverContract.declaresFailure_iff_of_valid hvalid]

/-- Where the outputs are valid, the declared outputs are there when the last output is an object
that has the name of every entry. -/
theorem outputFieldsDeclared_iff (h : o.MadeWith c)
    (hvalid : MetadataCheck.resolverOutputsValid c = true) :
    RuntimeCheck.outputFieldsDeclared o = true ↔
      ∃ entries, o.outputs.getLast? = some (.object entries) ∧
        ∀ entry ∈ c.outputEntries, ∃ name value, entry.get? "name" = some (.string name) ∧
          entries.lookup name = some value := by
  obtain ⟨hheld, -, houtput⟩ := h.coherent
  rw [RuntimeCheck.outputFieldsDeclared_iff, houtput, hheld.held]
  refine exists_congr fun entries ↦ and_congr_right fun _ ↦ ?_
  rw [ResolverContract.declaredOutputNames, List.forall_mem_filterMap]
  constructor
  · intro hnames entry hmem
    obtain ⟨name, hname⟩ := ResolverContract.exists_name_of_valid hvalid hmem
    obtain ⟨value, hvalue⟩ := Option.isSome_iff_exists.mp
      (hnames entry hmem name (Json.bind_string?_eq_some_iff.mpr hname))
    exact ⟨name, value, hname, hvalue⟩
  · intro hentries entry hmem name hname
    obtain ⟨name', value, hname', hvalue⟩ := hentries entry hmem
    obtain rfl : name = name' :=
      Json.string.inj (Option.some.inj ((Json.bind_string?_eq_some_iff.mp hname).symm.trans hname'))
    exact Option.isSome_of_eq_some hvalue

end Observation.MadeWith

namespace ResolverContract

/-- A valid declaration hides nothing from the checks of an observation. Where an assertion that the
failures are valid and one that the outputs are valid are both satisfied, the codes that are declared
are those with a retry limit, and the declared output names are the names of all entries in order.
And of every observation that is made with the declaration: if an error was thrown, then it has a
declared code exactly when there is retry evidence; and the declared outputs are there exactly when
the last output is an object that has the name of every entry as a key. -/
theorem validDeclaration_hidesNothing {c : ResolverContract} {failures outputs : Assertion}
    (hfailures : failures.kind = AssertionKind.resolverFailuresValid.name)
    (houtputs : outputs.kind = AssertionKind.resolverOutputsValid.name)
    (hf : failures.IsSatisfied (.metadata c)) (ho : outputs.IsSatisfied (.metadata c)) :
    (∀ code, c.declaresFailure code = true ↔ ∃ failure, c.declaredFailure? code = some failure) ∧
      List.Forall₂ (fun entry name ↦ entry.get? "name" = some (.string name)) c.outputEntries
        c.declaredOutputNames ∧
      ∀ (o : Observation) (a : Assertion), o.MadeWith c →
        (a.kind = AssertionKind.failureCodeDeclared.name → o.threw = true →
          (a.IsSatisfied (.runtime o) ↔ o.retry.isSome = true)) ∧
        (a.kind = AssertionKind.outputFieldsDeclared.name →
          (a.IsSatisfied (.runtime o) ↔
            ∃ entries, o.outputs.getLast? = some (.object entries) ∧
              ∀ entry ∈ c.outputEntries, ∃ name value,
                entry.get? "name" = some (.string name) ∧ entries.lookup name = some value)) := by
  have hfv : MetadataCheck.resolverFailuresValid c = true :=
    Except.ok.inj ((Assertion.isSatisfied_iff_check hfailures rfl).mp hf)
  have hov : MetadataCheck.resolverOutputsValid c = true :=
    Except.ok.inj ((Assertion.isSatisfied_iff_check houtputs rfl).mp ho)
  refine ⟨fun code ↦ ?_, ?_, fun o a hmade ↦ ⟨fun ha hthrew ↦ ?_, fun ha ↦ ?_⟩⟩
  · rw [declaresFailure_iff_of_valid hfv, Option.isSome_iff_exists]
  · exact forall₂_entryName? fun entry hmem ↦ exists_name_of_valid hov hmem
  · calc a.IsSatisfied (.runtime o)
      _ ↔ Except.ok (RuntimeCheck.failureCodeDeclared o) = (.ok true : CheckResult) :=
        Assertion.isSatisfied_iff_check ha rfl
      _ ↔ RuntimeCheck.failureCodeDeclared o = true := by rw [Except.ok.injEq]
      _ ↔ o.retry.isSome = true := hmade.failureCodeDeclared_iff hfv hthrew
  · calc a.IsSatisfied (.runtime o)
      _ ↔ Except.ok (RuntimeCheck.outputFieldsDeclared o) = (.ok true : CheckResult) :=
        Assertion.isSatisfied_iff_check ha rfl
      _ ↔ RuntimeCheck.outputFieldsDeclared o = true := by rw [Except.ok.injEq]
      _ ↔ _ := hmade.outputFieldsDeclared_iff hov

/-- A declaration of a code with two limits and of two outputs with one name. -/
def repeatedDeclaration : ResolverContract :=
  ⟨.record [
    ("failures", .array [.record [("code", .string "EBUSY"), ("retries", .ofNat 3)],
      .record [("code", .string "EBUSY"), ("retries", .ofNat 9)]]),
    ("outputs", .array [.record [("name", .string "sum"), ("type", .string "number")],
      .record [("name", .string "sum"), ("type", .string "text")]])]⟩

/-- A script that returns a sum and then throws an error with a code. -/
def summing : Script where
  name := "summing"
  replies := [.returns (.record [("sum", .ofNat 1)]), .throws ⟨some "EBUSY", "still busy", none⟩]
  declaration := none
  description := none
  fingerprints := none
  parser := none

/-- The code and the outputs of the script are declared, although each of them is declared twice. -/
theorem validDeclaration_hidesNothing_repeated :
    (Assertion.new "F" "resolver_failures_valid").IsSatisfied (.metadata repeatedDeclaration) ∧
      (Assertion.new "O" "resolver_outputs_valid").IsSatisfied (.metadata repeatedDeclaration) ∧
      repeatedDeclaration.declaredOutputNames = ["sum", "sum"] ∧
      ∃ o, (summing.resolver.observeWith (.repeated 2) repeatedDeclaration Script.start).answer =
          .ok o ∧ o.threw = true ∧ o.retry.isSome = true ∧
        (Assertion.new "S" "output_fields_declared").IsSatisfied (.runtime o) := by
  have hf : (Assertion.new "F" "resolver_failures_valid").IsSatisfied
      (.metadata repeatedDeclaration) := ⟨_, rfl, by decide +kernel⟩
  have ho : (Assertion.new "O" "resolver_outputs_valid").IsSatisfied
      (.metadata repeatedDeclaration) := ⟨_, rfl, by decide +kernel⟩
  obtain ⟨hcodes, hnames, hmade⟩ := validDeclaration_hidesNothing rfl rfl hf ho
  have hcalm : ∀ e ∈ (summing.resolver.observeWith (.repeated 2) repeatedDeclaration
      Script.start).events, e.panicked = false := by decide
  obtain ⟨o, hanswer, -, hacc, -, -⟩ :=
    summing.resolver.observeWith_accounts (.repeated 2) repeatedDeclaration Script.start hcalm
  have hthrew : o.threw = true := by
    rw [hacc.threw, hacc.error]
    rfl
  obtain ⟨hcode, -⟩ := hmade o (Assertion.new "C" "failure_code_declared") (.given _ _ _ hanswer)
  obtain ⟨-, hfields⟩ := hmade o (Assertion.new "S" "output_fields_declared") (.given _ _ _ hanswer)
  refine ⟨hf, ho, ?_, o, hanswer, hthrew, (hcode rfl hthrew).mp ?_, (hfields rfl).mpr ?_⟩
  · rfl
  · have hheld : o.metadata = repeatedDeclaration :=
      (summing.resolver.coherent_observeWith _ _ _ o hanswer).heldAgainst.held
    refine ⟨.failureCodeDeclared, rfl, congrArg Except.ok ?_⟩
    refine (RuntimeCheck.failureCodeDeclared_of_error hacc.error).mpr ⟨"EBUSY", rfl, ?_⟩
    rw [hheld]
    rfl
  · rw [hacc.outputs]
    refine ⟨[("sum", .ofNat 1)], rfl, ?_⟩
    change ∀ entry ∈ [_, _], _
    exact List.forall_mem_cons.mpr ⟨⟨"sum", .ofNat 1, rfl, rfl⟩,
      List.forall_mem_singleton.mpr ⟨"sum", .ofNat 1, rfl, rfl⟩⟩

end ResolverContract

end Certification
