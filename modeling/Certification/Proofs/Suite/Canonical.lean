import Certification.Proofs.Json.Codec
import Certification.Verdict

/-!
# Canonical specifications

A specification may be spelled in many ways and is written in one. What is written is read back as
the specification that it was written from; only an assertion that was made with null for its
expected value comes back without one, since null stands for what is absent. A specification that
was read from a text has no such assertion, so it is judged as its canonical form is.
-/

namespace Certification

open Decoder (Reads)

private theorem reads_text {o : Option String} (s : String) (_ : o = some s) :
    Json.string s ≠ .null ∧ Decoder.string.Reads (.string s) s :=
  ⟨Json.noConfusion, .string s⟩

/-- A severity is read back. -/
theorem Severity.reads_toJson (s : Severity) : Severity.decode.Reads s.toJson s := by
  cases s with
  | fatal => exact .choice rfl
  | advisory => exact .choice rfl

/-! ### Assertions -/

namespace Assertion

/-- The bounds of what an assertion holds: the position of its step is an integer of 64 bits, and
the objects in its expected value have sorted keys. -/
structure Representable (a : Assertion) : Prop where
  stepIndex : ∀ i, a.stepIndex = some i → -2 ^ 63 ≤ i ∧ i ≤ 2 ^ 63 - 1
  expected : ∀ j, a.expected = some j → j.SortedKeys

/-- The assertion without null for its expected value. -/
def withoutNull (a : Assertion) : Assertion :=
  { a with expected := a.expected.filter (· ≠ .null) }

/-- What is written for each field of an assertion. -/
def slots (a : Assertion) : List (String × Option Json) :=
  [("id", some (.string a.id)), ("type", some (.string a.kind)),
   ("severity", some a.severity.toJson), ("description", some (.ofOption .string a.description)),
   ("expected", some (a.expected.getD .null)), ("stepIndex", some (.ofOption .ofInt a.stepIndex)),
   ("expected_substring", some (.ofOption .string a.expectedSubstring)),
   ("path", some (.ofOption .string a.path)), ("field", some (.ofOption .string a.field))]

private theorem withoutNull_of_ne {a : Assertion} (h : a.expected ≠ some .null) :
    a.withoutNull = a := by
  have hkept : a.expected.filter (· ≠ .null) = a.expected := by
    cases he : a.expected with
    | none => rfl
    | some j =>
      have hj : j ≠ .null := fun hj ↦ h (he.trans (congrArg some hj))
      rw [Option.filter_some, if_pos (decide_eq_true hj)]
  rw [withoutNull, hkept]

section Reads

variable {a : Assertion} (h : a.Representable)

include h

private theorem reads_stepIndex :
    (Decoder.optional Decoder.int64).Reads (.ofOption .ofInt a.stepIndex) a.stepIndex := by
  refine .ofOption fun i hi ↦ ?_
  obtain ⟨hlow, hhigh⟩ := h.stepIndex i hi
  obtain ⟨n, hn, -⟩ := Json.exists_ofInt_eq hlow hhigh
  refine ⟨?_, .int64 hlow hhigh⟩
  rw [hn]
  exact Json.noConfusion

private theorem reads_expected :
    (Decoder.optional Decoder.json).Reads (a.expected.getD .null)
      (a.expected.filter (· ≠ .null)) := by
  cases he : a.expected with
  | none => exact .optional_null _
  | some j =>
    by_cases hj : j = .null
    · subst hj
      exact .optional_null _
    · rw [Option.filter_some, if_pos (decide_eq_true hj)]
      exact .optional_some hj (.json (h.expected j he))

private theorem accepts_slots : List.Forall₂ Field.Accepts dataShape.fields a.slots := by
  refine .cons (Field.accepts_of_reads (.string a.id)) ?_
  refine .cons (Field.accepts_of_reads (.string a.kind)) ?_
  refine .cons (Field.accepts_of_reads a.severity.reads_toJson) ?_
  refine .cons (Field.accepts_of_reads (.ofOption reads_text)) ?_
  refine .cons (Field.accepts_of_reads (reads_expected h)) ?_
  refine .cons (Field.accepts_of_reads (reads_stepIndex h)) ?_
  refine .cons (Field.accepts_of_reads (.ofOption reads_text)) ?_
  refine .cons (Field.accepts_of_reads (.ofOption reads_text)) ?_
  exact .cons (Field.accepts_of_reads (.ofOption reads_text)) .nil

/-- An assertion is read back, but for null as its expected value. -/
theorem reads_toJson : decode.Reads a.toJson a.withoutNull := by
  intro origin
  obtain ⟨fs, hgather, hold⟩ := dataShape.gather_record (by decide) (accepts_slots h) origin
  refine bind_eq_ok_iff.mpr ⟨fs, hgather, ?_⟩
  refine bind_eq_ok_iff.mpr ⟨_, hold.required rfl (.string a.id) origin, ?_⟩
  refine bind_eq_ok_iff.mpr ⟨_, hold.required rfl (.string a.kind) origin, ?_⟩
  refine bind_eq_ok_iff.mpr ⟨_, hold.withDefault rfl a.severity.reads_toJson origin .fatal, ?_⟩
  refine bind_eq_ok_iff.mpr ⟨_, hold.optional rfl (.ofOption reads_text) origin, ?_⟩
  refine bind_eq_ok_iff.mpr ⟨_, hold.optional rfl (reads_expected h) origin, ?_⟩
  refine bind_eq_ok_iff.mpr ⟨_, hold.optional rfl (reads_stepIndex h) origin, ?_⟩
  refine bind_eq_ok_iff.mpr ⟨_, hold.optional rfl (.ofOption reads_text) origin, ?_⟩
  refine bind_eq_ok_iff.mpr ⟨_, hold.optional rfl (.ofOption reads_text) origin, ?_⟩
  exact bind_eq_ok_iff.mpr ⟨_, hold.optional rfl (.ofOption reads_text) origin, rfl⟩

end Reads

private theorem yieldsOnly_decode (origin : Origin) (d : Document) :
    YieldsOnly (fun a ↦ a.Representable ∧ a.expected ≠ some .null) (decode origin d) := by
  -- Only the expected value and the position of a step have bounds to keep.
  refine .bind_of_forall fun fs ↦ .bind_of_forall fun id ↦ .bind_of_forall fun kind ↦
    .bind_of_forall fun severity ↦ .bind_of_forall fun description ↦ ?_
  refine .bind (fs.yieldsOnly_optional "expected" fun d hd ↦ Decoder.yieldsOnly_json hd)
    fun expected hexpected ↦ ?_
  refine .bind (fs.yieldsOnly_optional "stepIndex" fun d _ ↦ Decoder.yieldsOnly_integer _ _ _ d)
    fun stepIndex hstep ↦ ?_
  refine .bind_of_forall fun substring ↦ .bind_of_forall fun path ↦ .bind_of_forall fun field ↦ ?_
  refine .ok ⟨⟨hstep, fun j hj ↦ (hexpected j hj).1⟩, fun hnull ↦ ?_⟩
  exact (hexpected .null hnull).2 rfl

end Assertion

/-! ### Fixtures -/

private theorem Fixture.reads_toJson (f : Fixture) : Fixture.decode.Reads f.toJson f := by
  intro origin
  obtain ⟨fs, hgather, hold⟩ := Fixture.dataShape.gather_record (by decide)
    (.cons (Field.accepts_map_of_reads reads_text)
      (.cons (Field.accepts_map_of_reads reads_text) .nil)) origin
  refine bind_eq_ok_iff.mpr ⟨fs, hgather, ?_⟩
  refine bind_eq_ok_iff.mpr ⟨_, hold.optional_map rfl reads_text origin, ?_⟩
  exact bind_eq_ok_iff.mpr ⟨_, hold.optional_map rfl reads_text origin, rfl⟩

private theorem Fixtures.reads_toJson (f : Fixtures) : Fixtures.decode.Reads f.toJson f := by
  intro origin
  have hinputs : (Decoder.list Fixture.decode).Reads (.array (f.inputs.map Fixture.toJson))
      f.inputs := .list_self fun fixture _ ↦ fixture.reads_toJson
  obtain ⟨fs, hgather, hold⟩ := Fixtures.dataShape.gather_record (by decide)
    (.cons (Field.accepts_of_reads hinputs) .nil) origin
  refine bind_eq_ok_iff.mpr ⟨fs, hgather, ?_⟩
  exact bind_eq_ok_iff.mpr ⟨_, hold.withDefault rfl hinputs origin [], rfl⟩

/-! ### Specifications -/

namespace TestSpec

/-- A specification is read back, but for null as an expected value. -/
theorem reads_toJson {s : TestSpec} (h : ∀ a ∈ s.assertions, a.Representable) :
    decode.Reads s.toJson { s with assertions := s.assertions.map Assertion.withoutNull } := by
  intro origin
  have hassertions : (Decoder.list Assertion.decode).Reads
      (.array (s.assertions.map Assertion.toJson)) (s.assertions.map Assertion.withoutNull) :=
    .list fun a ha ↦ Assertion.reads_toJson (h a ha)
  obtain ⟨fs, hgather, hold⟩ := dataShape.gather_record (by decide)
    (.cons (Field.accepts_map_of_reads reads_text)
      (.cons (Field.accepts_map_of_reads reads_text)
        (.cons (Field.accepts_map_of_reads reads_text)
          (.cons (Field.accepts_of_reads s.fixtures.reads_toJson)
            (.cons (Field.accepts_of_reads hassertions) .nil))))) origin
  refine bind_eq_ok_iff.mpr ⟨fs, hgather, ?_⟩
  refine bind_eq_ok_iff.mpr ⟨_, hold.optional_map rfl reads_text origin, ?_⟩
  refine bind_eq_ok_iff.mpr ⟨_, hold.optional_map rfl reads_text origin, ?_⟩
  refine bind_eq_ok_iff.mpr ⟨_, hold.optional_map rfl reads_text origin, ?_⟩
  refine bind_eq_ok_iff.mpr ⟨_, hold.withDefault rfl s.fixtures.reads_toJson origin ⟨[]⟩, ?_⟩
  exact bind_eq_ok_iff.mpr ⟨_, hold.required rfl hassertions origin, rfl⟩

private theorem yieldsOnly_decode (origin : Origin) (d : Document) :
    YieldsOnly (fun s ↦ ∀ a ∈ s.assertions, a.Representable ∧ a.expected ≠ some .null)
      (decode origin d) := by
  refine .bind_of_forall fun fs ↦ .bind_of_forall fun testId ↦ .bind_of_forall fun category ↦
    .bind_of_forall fun description ↦ .bind_of_forall fun fixtures ↦ ?_
  refine .bind (fs.yieldsOnly_required "assertions" fun d ↦
    Decoder.yieldsOnly_list (Assertion.yieldsOnly_decode origin) d) fun assertions h ↦ .ok h

private theorem reads_toJson_of_decode {origin : Origin} {d : Document} {s : TestSpec}
    (h : decode origin d = .ok s) : decode.Reads s.toJson s := by
  have hread := yieldsOnly_decode origin d s h
  have hsame : s.assertions.map Assertion.withoutNull = s.assertions := by
    conv_rhs => rw [← List.map_id s.assertions]
    exact List.map_congr_left fun a ha ↦ Assertion.withoutNull_of_ne (hread a ha).2
  have hback := reads_toJson fun a ha ↦ (hread a ha).1
  rwa [hsame] at hback

/-- However a specification is spelled in a text, what is written for it is read as the same
specification, which is judged in the same way at every target. An assertion that was made otherwise
is read back from what is written for it as well, except that null as its expected value, and nothing
else, is lost. -/
theorem canonicalForm_faithful :
    (∀ text spec, Decoder.ofText decode text = .ok spec →
      ∃ canonical, Decoder.ofJson decode spec.toJson = .ok canonical ∧ canonical = spec ∧
        ∀ target, judge canonical.assertions target = judge spec.assertions target) ∧
    ∀ a : Assertion, a.Representable →
      ∃ back, Decoder.ofJson Assertion.decode a.toJson = .ok back ∧
        (a.expected = some .null → back = { a with expected := none }) ∧
        (a.expected ≠ some .null → back = a) := by
  constructor
  · intro text spec h
    obtain ⟨_, hread, h⟩ := bind_eq_ok_iff.mp h
    split at h
    · cases h
      exact ⟨spec, reads_toJson_of_decode hread .value, rfl, fun _ ↦ rfl⟩
    · cases h
  · intro a h
    refine ⟨a.withoutNull, Assertion.reads_toJson h .value, fun hnull ↦ ?_, fun hne ↦ ?_⟩
    · rw [Assertion.withoutNull, hnull]
      rfl
    · exact Assertion.withoutNull_of_ne hne

/-- A text with two assertions that are spelled in other ways than they are written: one with other
names, keys in another order, its severity as an object and an unknown key, the other as an array. -/
def spelled : String :=
  "\x7b\"assertions\":[\x7b\"kind\":\"step_type\",\"id\":\"A1\",\"step_index\":-1," ++
    "\"severity\":\x7b\"warn\":null\x7d,\"expected\":\x7b\"b\":1,\"a\":[]\x7d,\"note\":0\x7d," ++
    "[\"A2\",\"no_parse_warnings\",\"info\"]]\x7d"

/-- The specification in that text. -/
def spelledSpec : TestSpec where
  testId := none
  category := none
  description := none
  fixtures := ⟨[]⟩
  assertions :=
    [{ Assertion.new "A1" "step_type" with
        severity := .advisory
        expected := some (.record [("b", .ofNat 1), ("a", .array [])])
        stepIndex := some (-1) },
     { Assertion.new "A2" "no_parse_warnings" with severity := .advisory }]

/-- The specification in the text is read back, and null as the expected value of an assertion is
lost. -/
theorem canonicalForm_faithful_spelled :
    Decoder.ofText decode spelled = .ok spelledSpec ∧
    Decoder.ofJson decode spelledSpec.toJson = .ok spelledSpec ∧
    ({ Assertion.new "A3" "output_is_object" with expected := some .null }).Representable ∧
    Decoder.ofJson Assertion.decode
      { Assertion.new "A3" "output_is_object" with expected := some .null }.toJson =
        .ok (Assertion.new "A3" "output_is_object") := by
  have htext : Decoder.ofText decode spelled = .ok spelledSpec :=
    eq_ok_of_toOption (by decide +kernel)
  have hbounds :
      ({ Assertion.new "A3" "output_is_object" with expected := some .null }).Representable := by
    constructor
    · rintro i ⟨⟩
    · rintro j ⟨⟩
      exact .null
  obtain ⟨htexts, hmade⟩ := canonicalForm_faithful
  obtain ⟨canonical, hcanonical, rfl, -⟩ := htexts spelled spelledSpec htext
  obtain ⟨back, hback, hnull, -⟩ := hmade _ hbounds
  exact ⟨htext, hcanonical, hbounds, hback.trans (congrArg Except.ok (hnull rfl))⟩

end TestSpec

end Certification
