import Certification.Proofs.Assertion.Satisfied
import Certification.Proofs.Check.Workflow
import Certification.Proofs.Json.Gathered
import Certification.Proofs.Json.Same
import Certification.Proofs.Suite.Canonical

/-!
# The value of a declared field

An assertion may state which value a resolver declares under a key, and it compares the two values
as they are. Read from a specification, it keeps every value that was written for it but null, which
stands for what is absent: then the assertion states no value, cannot be checked and is never
satisfied, also where null is declared. Made with null, it compares with null as with any value.
-/

namespace Certification

/-- The declaration is an object that holds a value under a key. -/
def ResolverContract.Holds (c : ResolverContract) (field : String) (v : Json) : Prop :=
  ∃ entries w, c.raw = .object entries ∧ entries.lookup field = some w ∧
    w.withoutZeroSigns = v.withoutZeroSigns

/-- A declaration holds a value when it has a field that is the same. -/
theorem ResolverContract.any_same_iff {c : ResolverContract} {field : String} {v : Json} :
    (c.field? field).any (·.same v) = true ↔ c.Holds field v := by
  simp only [Option.any_eq_true, field?, Json.get?, Holds, Json.same_iff]
  cases c.raw <;> simp

/-- A declaration has a field as expected when a key and a value are stated and it holds the value
under the key. -/
theorem MetadataCheck.resolverHasField_eq_true_iff {c : ResolverContract} {a : Assertion} :
    resolverHasField c a = .ok true ↔
      ∃ field v, a.field = some field ∧ a.expected = some v ∧ c.Holds field v := by
  simp only [resolverHasField, Assertion.requireField, Assertion.requireExpected, bind_eq_ok_iff,
    Assertion.require_eq_ok_iff, pure, Except.pure, Except.ok.injEq, ResolverContract.any_same_iff]
  constructor
  · rintro ⟨field, hfield, v, hv, hholds⟩
    exact ⟨field, v, hfield, hv, hholds⟩
  · rintro ⟨field, v, hfield, hv, hholds⟩
    exact ⟨field, hfield, v, hv, hholds⟩

namespace Assertion

/-- The assertion that a declaration holds a value under a key, as it is made. -/
def fieldValue (id field : String) (v : Json) : Assertion :=
  { new id AssertionKind.resolverHasField.name with
    expected := some v
    field := some field }

/-- The entries in which that assertion is written. -/
def fieldValueEntries (id field : String) (e : Json) : List (String × Json) :=
  [("id", .string id), ("type", .string "resolver_has_field"), ("field", .string field),
   ("expected", e)]

variable {id field : String} {e v : Json} {c : ResolverContract}

private theorem isSatisfied_fieldValue_iff :
    (fieldValue id field v).IsSatisfied (.metadata c) ↔ c.Holds field v := by
  have hkind : (fieldValue id field v).kind = AssertionKind.resolverHasField.name := rfl
  rw [isSatisfied_iff_check hkind rfl]
  refine MetadataCheck.resolverHasField_eq_true_iff.trans ?_
  simp [fieldValue]

private theorem isSatisfied_withoutNull_iff :
    (fieldValue id field v).withoutNull.IsSatisfied (.metadata c) ↔
      v ≠ .null ∧ c.Holds field v := by
  have hkind : (fieldValue id field v).withoutNull.kind = AssertionKind.resolverHasField.name := rfl
  rw [isSatisfied_iff_check hkind rfl]
  refine MetadataCheck.resolverHasField_eq_true_iff.trans ?_
  by_cases hv : v = .null
  · simp [fieldValue, withoutNull, hv]
  · simp [fieldValue, withoutNull, hv]

/-- What is written for each field of the assertion. -/
def fieldValueSlots (id field : String) (e : Json) : List (String × Option Json) :=
  [("id", some (.string id)), ("type", some (.string "resolver_has_field")), ("severity", none),
   ("description", none), ("expected", some e), ("stepIndex", none), ("expected_substring", none),
   ("path", none), ("field", some (.string field))]

section Written

variable (hv : (Document.ofJson e).toJson? = some v)
include hv

/-- The expected value is read as the value that was written, but for null. -/
theorem reads_expected_written :
    (Decoder.optional Decoder.json).Reads e ((some v).filter (· ≠ .null)) := by
  by_cases he : e = .null
  · subst he
    cases hv
    exact .optional_null _
  · have hvalue : v ≠ .null := by
      rintro rfl
      have hnull := Document.eq_null_of_toJson? hv
      cases e <;> cases hnull
      exact he rfl
    rw [Option.filter_some, if_pos (decide_eq_true hvalue)]
    refine .optional_some he fun origin ↦ ?_
    rw [Decoder.json, hv]

private theorem accepts_fieldValueSlots :
    List.Forall₂ Field.Accepts dataShape.fields (fieldValueSlots id field e) := by
  refine .cons (Field.accepts_of_reads (.string id)) ?_
  refine .cons (Field.accepts_of_reads (.string _)) ?_
  refine .cons ⟨rfl, nofun⟩ (.cons ⟨rfl, nofun⟩ ?_)
  refine .cons (Field.accepts_of_reads (reads_expected_written hv)) ?_
  refine .cons ⟨rfl, nofun⟩ (.cons ⟨rfl, nofun⟩ (.cons ⟨rfl, nofun⟩ ?_))
  exact .cons (Field.accepts_of_reads (.optional_some Json.noConfusion (.string field))) .nil

/-- Written in any order, the assertion is read as it was made, but for null. -/
theorem reads_fieldValue {entries : List (String × Json)}
    (hentries : entries.Perm (fieldValueEntries id field e)) :
    decode.Reads (.object entries) (fieldValue id field v).withoutNull := by
  intro origin
  have hperm : entries.Perm (presentEntries (fieldValueSlots id field e)) :=
    hentries.trans (.cons _ (.cons _ (.swap _ _ _)))
  obtain ⟨fs, hgather, hold⟩ :=
    dataShape.gather_of_perm (by decide) (accepts_fieldValueSlots hv) hperm origin
  refine bind_eq_ok_iff.mpr ⟨fs, hgather, ?_⟩
  refine bind_eq_ok_iff.mpr ⟨_, hold.required rfl (.string id) origin, ?_⟩
  refine bind_eq_ok_iff.mpr ⟨_, hold.required rfl (.string _) origin, ?_⟩
  refine bind_eq_ok_iff.mpr ⟨_, hold.withDefault_absent rfl origin Severity.fatal, ?_⟩
  refine bind_eq_ok_iff.mpr ⟨_, hold.withDefault_absent rfl origin none, ?_⟩
  refine bind_eq_ok_iff.mpr ⟨_, hold.optional rfl (reads_expected_written hv) origin, ?_⟩
  refine bind_eq_ok_iff.mpr ⟨_, hold.withDefault_absent rfl origin none, ?_⟩
  refine bind_eq_ok_iff.mpr ⟨_, hold.withDefault_absent rfl origin none, ?_⟩
  refine bind_eq_ok_iff.mpr ⟨_, hold.withDefault_absent rfl origin none, ?_⟩
  exact bind_eq_ok_iff.mpr
    ⟨_, hold.optional rfl (.optional_some Json.noConfusion (.string field)) origin, rfl⟩

end Written

end Assertion

namespace TestSpec

/-- The documents of the assertions in the document of a specification. -/
def printedAssertions? (d : Document) : Option (List Document) :=
  match Shape.printed? "assertions" 4 d with
  | some (.array ds _) => some ds
  | _ => none

/-- The assertions of a specification are read from what stands for them, one by one. -/
theorem exists_printedAssertions {origin : Origin} {d : Document} {spec : TestSpec}
    (h : decode origin d = .ok spec) :
    ∃ ds, printedAssertions? d = some ds ∧
      List.Forall₂ (fun d a ↦ Assertion.decode origin d = .ok a) ds spec.assertions := by
  obtain ⟨fs, hgather, h⟩ := bind_eq_ok_iff.mp h
  obtain ⟨_, -, h⟩ := bind_eq_ok_iff.mp h
  obtain ⟨_, -, h⟩ := bind_eq_ok_iff.mp h
  obtain ⟨_, -, h⟩ := bind_eq_ok_iff.mp h
  obtain ⟨_, -, h⟩ := bind_eq_ok_iff.mp h
  obtain ⟨assertions, hassertions, h⟩ := bind_eq_ok_iff.mp h
  cases h
  have hplace : dataShape.fields[4]? =
      some (.of "assertions" (Decoder.list Assertion.decode) []) := rfl
  have hprinted : fs.present.lookup "assertions" = Shape.printed? "assertions" 4 d :=
    Shape.lookup_of_gather (by decide) hplace rfl hgather
  unfold Fields.required at hassertions
  split at hassertions
  · next found hfound =>
    obtain ⟨ds, rfl, hread⟩ := Decoder.exists_array_of_list hassertions
    refine ⟨ds, ?_, hread⟩
    rw [printedAssertions?, ← hprinted, hfound]
  · cases hassertions

end TestSpec

namespace Assertion

/-- An assertion about the value of a field is read wherever it is written, and it compares values as
they are, but for null. Written with its entries in any order, with any value, it is read as one and
the same assertion, in the place where it stands in a specification; the declarations that satisfy
it are those that hold the value under the key, unless the value is null: then the assertion lacks
an expected value at every declaration. The assertion that is made with the value is satisfied by
the declarations that hold it, null or not. -/
theorem isSatisfied_written {id field : String} {e v : Json}
    (hv : (Document.ofJson e).toJson? = some v) {entries : List (String × Json)}
    (hentries : entries.Perm (fieldValueEntries id field e)) :
    ∃ a : Assertion,
      (∀ origin, decode origin (.ofJson (.object entries)) = .ok a) ∧
      (∀ origin d spec, TestSpec.decode origin d = .ok spec →
        ∃ ds, TestSpec.printedAssertions? d = some ds ∧
          ∀ i : Nat, ds[i]? = some (.ofJson (.object entries)) → spec.assertions[i]? = some a) ∧
      ∀ c : ResolverContract,
        (a.IsSatisfied (.metadata c) ↔ v ≠ .null ∧ c.Holds field v) ∧
        (v = .null → AssertionKind.resolverHasField.checkShaped (.metadata c) a =
          .error (.missingParameter .resolverHasField .expected)) ∧
        ((fieldValue id field v).IsSatisfied (.metadata c) ↔ c.Holds field v) := by
  have hread := reads_fieldValue hv hentries
  refine ⟨(fieldValue id field v).withoutNull, hread, ?_, fun c ↦
    ⟨isSatisfied_withoutNull_iff, ?_, isSatisfied_fieldValue_iff⟩⟩
  · intro origin d spec h
    obtain ⟨ds, hds, hall⟩ := TestSpec.exists_printedAssertions h
    refine ⟨ds, hds, fun i hi ↦ ?_⟩
    have hlength : i < spec.assertions.length := by
      rw [← hall.length_eq]
      exact (List.getElem?_eq_some_iff.mp hi).1
    have hdecode := hall.get (List.getElem?_eq_some_iff.mp hi).1 hlength
    rw [List.get_eq_getElem, (List.getElem?_eq_some_iff.mp hi).2, hread origin] at hdecode
    rw [List.getElem?_eq_getElem hlength]
    exact congrArg some (Except.ok.inj hdecode).symm
  · rintro rfl
    rfl

/-- Two limits, their keys out of order; the lesser one is a zero without a sign. -/
def limits : Json :=
  .object [("low", .number (.double (.zero false))), ("high", .ofNat 9)]

/-- The entries of an assertion about these limits, in another order. -/
def limitsEntries : List (String × Json) :=
  [("expected", limits), ("field", .string "limits"), ("type", .string "resolver_has_field"),
   ("id", .string "bounded")]

/-- A specification with that assertion. -/
def limitsSpec : TestSpec where
  testId := none
  category := none
  description := none
  fixtures := ⟨[]⟩
  assertions := [fieldValue "bounded" "limits" (.record
    [("low", .number (.double (.zero false))), ("high", .ofNat 9)])]

/-- A declaration of these limits, the lesser one a zero with a sign. -/
def limited : ResolverContract :=
  ⟨.object [("limits", .record
    [("low", .number (.double (.zero true))), ("high", .ofNat 9)])]⟩

/-- The assertion about the limits is read from its specification, and the declaration satisfies
it. -/
theorem isSatisfied_written_limits :
    limitsEntries.Perm (fieldValueEntries "bounded" "limits" limits) ∧
      TestSpec.decode .text (.ofJson (.object [("assertions", .array [.object limitsEntries])])) =
        .ok limitsSpec ∧
      ∃ a, limitsSpec.assertions[0]? = some a ∧ a.IsSatisfied (.metadata limited) := by
  have hvalue : (Document.ofJson limits).toJson? =
      some (.record [("low", .number (.double (.zero false))), ("high", .ofNat 9)]) := by decide
  have hentries : limitsEntries.Perm (fieldValueEntries "bounded" "limits" limits) := by decide
  have hspec : TestSpec.decode .text
      (.ofJson (.object [("assertions", .array [.object limitsEntries])])) = .ok limitsSpec :=
    eq_ok_of_toOption (by decide +kernel)
  obtain ⟨a, -, hplace, hsatisfied⟩ := isSatisfied_written hvalue hentries
  obtain ⟨ds, hds, hall⟩ := hplace _ _ _ hspec
  cases hds
  refine ⟨hentries, hspec, a, hall 0 rfl, (hsatisfied limited).1.mpr ⟨nofun, ?_⟩⟩
  exact ⟨_, _, rfl, rfl, by decide⟩

/-- Null is declared under a key where an assertion about null is not satisfied. -/
theorem not_forall_isSatisfied_iff_holds :
    ¬ ∀ (id field : String) (v : Json) (c : ResolverContract) (a : Assertion),
      v.SortedKeys → Decoder.ofJson decode (.object (fieldValueEntries id field v)) = .ok a →
        (a.IsSatisfied (.metadata c) ↔ c.Holds field v) := by
  intro h
  have hread : Decoder.ofJson decode (.object (fieldValueEntries "A" "f" .null)) =
      .ok (fieldValue "A" "f" .null).withoutNull := eq_ok_of_toOption (by decide)
  have hholds : ResolverContract.Holds ⟨.object [("f", .null)]⟩ "f" .null :=
    ⟨_, _, rfl, rfl, rfl⟩
  have hsatisfied := (h "A" "f" .null ⟨.object [("f", .null)]⟩ _ .null hread).mpr hholds
  exact (isSatisfied_withoutNull_iff.mp hsatisfied).1 rfl

end Assertion

end Certification
