import Certification.Proofs.Json.Arranged
import Certification.Proofs.Suite.Canonical
import Certification.Suite.Outcome
import Mathlib.Data.List.Permutation

/-!
# Outcomes in a report

An outcome is one flat record: beside the fields of the outcome stand those of its status, which are
set aside and read last. The two share no name, so an outcome is read back from its entries in every
order, from a text as from a value, and no two outcomes are written alike.
-/

namespace Certification

open Decoder (Reads)
open Json (Rearranges)

variable {f : Json → Json}

private theorem TargetShape.reads_name (shape : TargetShape) :
    decode.Reads (.string shape.name) shape := by
  apply Reads.choice
  cases shape <;> rfl

/-! ### Parts of an outcome -/

/-- A duration of 64 bits is read back. -/
theorem Duration.reads (hf : Rearranges f) {d : Duration} (h : d.seconds < 2 ^ 64) :
    decode.Reads (f (.object d.entries)) d := by
  intro origin
  have hseconds := Reads.nat64 h origin
  have hnanos := Reads.nat32 (Nat.lt_trans d.nanos_lt (by decide)) origin
  have hcarry : carry d.seconds d.nanos = .ok d := by
    have hsame := ofNanos_toNanos d
    rw [toNanos] at hsame
    simp only [carry, hsame, if_pos h]
  obtain ⟨es, hes, hperm⟩ := hf.object d.entries (by simp [entries])
  have hnumber (n : Nat) : f (.ofNat n) = .ofNat n := hf.number _
  simp only [entries, List.map_cons, List.map_nil, hnumber] at hperm
  have hentries : decodeEntries origin none none (Document.ofEntries es) =
      .ok (some d.seconds, some d.nanos) := by
    rcases List.perm_pair.mp hperm with rfl | rfl
    · simp only [Document.ofEntries, decodeEntries, if_true, hseconds]
      simp [bind, Except.bind, hnanos]
    · simp only [Document.ofEntries, decodeEntries, if_true, hnanos]
      simp [bind, Except.bind, hseconds]
  simp [hes, Document.ofJson, decode, hentries, bind, Except.bind, hcarry]

/-- A duration that is read fits 64 bits. -/
theorem Duration.yieldsOnly_decode {origin : Origin} (d : Document) :
    YieldsOnly (fun duration ↦ duration.seconds < 2 ^ 64) (decode origin d) := by
  have hcarry (seconds nanos : Nat) :
      YieldsOnly (fun duration ↦ duration.seconds < 2 ^ 64) (carry seconds nanos) := by
    unfold carry
    simp only
    split
    · next h => exact .ok h
    · exact .error _
  unfold decode
  split
  · refine .bind_of_forall fun r ↦ ?_
    split
    · exact .error _
    · split
      · exact hcarry _ _
      · exact .error _
      · exact .error _
  · split
    · split
      · exact .error _
      · exact .error _
    · refine .bind_of_forall fun _ ↦ ?_
      split
      · exact .error _
      · exact .error _
    · refine .bind_of_forall fun seconds ↦ .bind_of_forall fun nanos ↦
        .bind (hcarry seconds nanos) fun duration h ↦ ?_
      split
      · exact .error _
      · split
        · exact .error _
        · exact .ok h
  · exact .error _
  · exact .error _
  · exact Decoder.yieldsOnly_mismatch _ _

/-- A failure is read back. -/
theorem Failure.reads (hf : Rearranges f) (failure : Failure) :
    decode.Reads (f (.object failure.entries)) failure := by
  intro origin
  obtain ⟨es, hes, hperm⟩ := hf.object failure.entries (by simp [entries])
  have hseverity : f failure.severity.toJson = failure.severity.toJson := hf.string _
  simp only [entries, List.map_cons, List.map_nil, hf.string, hseverity] at hperm
  obtain ⟨fs, hgather, hold⟩ := dataShape.gather_of_perm (by decide)
    (.cons (Field.accepts_of_reads (.string failure.id))
      (.cons (Field.accepts_of_reads failure.severity.reads_toJson)
        (.cons (Field.accepts_of_reads (.string failure.message)) .nil))) hperm origin
  rw [hes]
  refine bind_eq_ok_iff.mpr ⟨fs, hgather, ?_⟩
  refine bind_eq_ok_iff.mpr ⟨_, hold.required rfl (.string failure.id) origin, ?_⟩
  refine bind_eq_ok_iff.mpr ⟨_, hold.required rfl failure.severity.reads_toJson origin, ?_⟩
  exact bind_eq_ok_iff.mpr ⟨_, hold.required rfl (.string failure.message) origin, rfl⟩

/-- A verdict is read back. -/
theorem Verdict.reads (hf : Rearranges f) (v : Verdict) :
    decode.Reads (f (.object v.entries)) v := by
  intro origin
  obtain ⟨es, hes, hperm⟩ := hf.object v.entries (by simp [entries])
  have hfailures : (Decoder.list Failure.decode).Reads
      (.array (v.failures.map fun failure ↦ f (.object failure.entries))) v.failures :=
    .list_self fun failure _ ↦ Failure.reads hf failure
  simp only [entries, List.map_cons, List.map_nil, hf.bool, hf.string, hf.array, List.map_map,
    Function.comp_def] at hperm
  obtain ⟨fs, hgather, hold⟩ := dataShape.gather_of_perm (by decide)
    (.cons (Field.accepts_of_reads (.bool v.ok))
      (.cons (Field.accepts_of_reads (.string v.message))
        (.cons (Field.accepts_of_reads hfailures) .nil))) hperm origin
  rw [hes]
  refine bind_eq_ok_iff.mpr ⟨fs, hgather, ?_⟩
  refine bind_eq_ok_iff.mpr ⟨_, hold.required rfl (.bool v.ok) origin, ?_⟩
  refine bind_eq_ok_iff.mpr ⟨_, hold.required rfl (.string v.message) origin, ?_⟩
  exact bind_eq_ok_iff.mpr ⟨_, hold.required rfl hfailures origin, rfl⟩

/-! ### Statuses -/

namespace SuiteStatus

private theorem filter_key_of_perm {es entries : List (String × Json)} (h : es.Perm entries)
    {key : String} {j : Json} (hone : entries.filter (·.1 = key) = [(key, j)]) :
    (es.map fun e ↦ (e.1, Document.ofJson e.2)).filter (·.1 = key) = [(key, .ofJson j)] := by
  have hfilter := h.filter (·.1 = key)
  rw [hone] at hfilter
  rw [List.filter_map]
  exact congrArg _ hfilter.eq_singleton

private theorem content_of_filter {α : Type} {decode : Decoder α} {key : String} {j : Json} {a : α}
    {entries : List (String × Document)}
    (hone : entries.filter (·.1 = key) = [(key, .ofJson j)]) (hr : decode.Reads j a) :
    content key decode entries = .ok a := by
  rw [content, hone]
  simp only [hr .buffered]
  rfl

/-- A status is read back from its entries in any order. -/
theorem ofEntries_of_perm (hf : Rearranges f) {s : SuiteStatus} {es : List (String × Json)}
    (h : es.Perm (s.entries.map fun e ↦ (e.1, f e.2))) :
    ofEntries (es.map fun e ↦ (e.1, .ofJson e.2)) = .ok s := by
  have htag : (es.map fun e ↦ (e.1, Document.ofJson e.2)).filter (·.1 = "outcome") =
      [("outcome", .ofJson (.string s.name))] := by
    apply filter_key_of_perm h
    cases s <;> simp [entries, hf.string]
  have hname : decodeName (.ofJson (.string s.name)) = .ok s.name := by
    cases s <;> rfl
  rw [ofEntries, htag]
  refine bind_eq_ok_iff.mpr ⟨s.name, hname, ?_⟩
  cases s with
  | passed => rfl
  | skipped => simp only [name]; rfl
  | failed verdict =>
    have hone : (es.map fun e ↦ (e.1, Document.ofJson e.2)).filter (·.1 = "verdict") =
        [("verdict", .ofJson (f (.object verdict.entries)))] :=
      filter_key_of_perm h (by simp [entries])
    simp [name, content_of_filter hone (Verdict.reads hf verdict)]
  | loadFailed reason =>
    have hone : (es.map fun e ↦ (e.1, Document.ofJson e.2)).filter (·.1 = "reason") =
        [("reason", .ofJson (.string reason))] :=
      filter_key_of_perm h (by simp [entries, hf.string])
    simp [name, content_of_filter hone (.string reason)]
  | crashed reason =>
    have hone : (es.map fun e ↦ (e.1, Document.ofJson e.2)).filter (·.1 = "reason") =
        [("reason", .ofJson (.string reason))] :=
      filter_key_of_perm h (by simp [entries, hf.string])
    simp [name, content_of_filter hone (.string reason)]

end SuiteStatus

/-! ### Outcomes -/

namespace SuiteOutcome

/-- Whether a key is the name of a field that is read where it stands. -/
def isField (key : String) : Bool := (fields.map Field.name).contains key

private theorem isField_of_answersTo {field : Field} (hmem : field ∈ fields) {key : String}
    (h : field.answersTo key = true) : isField key = true := by
  have haliases : ∀ field ∈ fields, field.aliases = [] := by
    simp [fields, Field.of, Field.optional]
  have hkey := (field.answersTo_iff key).mp h
  rw [Field.spellings, haliases field hmem, List.mem_singleton] at hkey
  rw [isField, hkey]
  exact List.contains_iff_mem.mpr (List.mem_map_of_mem hmem)

/-- Entries are told apart by their keys: fields are read where they stand, and the others are set
aside. -/
theorem gather_ofEntries {origin : Origin} (present others : List (String × Document))
    {entries : List (String × Json)}
    (hkeys : (present.map Prod.fst ++ entries.map Prod.fst).Nodup)
    (haccepts : ∀ e ∈ entries, isField e.1 = true →
      ∃ field ∈ fields, field.name = e.1 ∧ field.check origin (.ofJson e.2) = .ok ()) :
    gather origin present others (Document.ofEntries entries) =
      .ok (present ++ (entries.filter fun e ↦ isField e.1).map fun e ↦ (e.1, .ofJson e.2),
        others ++ (entries.filter fun e ↦ !isField e.1).map fun e ↦ (e.1, .ofJson e.2)) := by
  induction entries generalizing present others with
  | nil => simp [Document.ofEntries, gather]
  | cons e rest ih =>
    obtain ⟨hfirst, hrest⟩ := List.forall_mem_cons.mp haccepts
    simp only [Document.ofEntries, gather]
    cases he : isField e.1 with
    | true =>
      obtain ⟨field, hmem, hname, hcheck⟩ := hfirst he
      have hfind : fields.find? (·.answersTo field.name) = some field :=
        Field.find?_answersTo (by decide) hmem
      rw [hname] at hfind
      have habsent : present.lookup e.1 = none := by
        apply Json.lookup_eq_none_of_notMem
        intro hmem
        exact (List.nodup_append.mp hkeys).2.2 e.1 hmem e.1 List.mem_cons_self rfl
      have hnext := ih (present ++ [(e.1, .ofJson e.2)]) others (by simpa using hkeys) hrest
      simp only [hfind, habsent, hcheck]
      refine hnext.trans ?_
      simp [he]
    | false =>
      have hfind : fields.find? (·.answersTo e.1) = none := by
        apply List.find?_eq_none.mpr
        intro field hmem hanswers
        rw [isField_of_answersTo hmem hanswers] at he
        cases he
      have hdistinct : (present.map Prod.fst ++ rest.map Prod.fst).Nodup :=
        hkeys.sublist ((List.sublist_cons_self _ _).append_left _)
      have hnext := ih present (others ++ [(e.1, .ofJson e.2)]) hdistinct hrest
      simp only [hfind, Document.toJson?_ofJson_eq_canonical, Option.isSome_some, if_true]
      refine hnext.trans ?_
      simp [he]

/-- What is written for the fields that are read where they stand. -/
def fieldSlots (o : SuiteOutcome) (duration : Json) : List (String × Option Json) :=
  [("suite", some (.string o.suite)), ("test_id", o.testId.map .string),
   ("target", o.target.map fun shape ↦ .string shape.name), ("duration", some duration)]

private theorem nodup_keys_entries (o : SuiteOutcome) : (o.entries.map Prod.fst).Nodup := by
  obtain ⟨suite, testId, target, status, duration⟩ := o
  cases testId <;> cases target <;> cases status <;>
    simp [entries, entriesUntimed, presentEntries, SuiteStatus.entries]

private theorem isField_of_mem_entries {s : SuiteStatus} {e : String × Json} (he : e ∈ s.entries) :
    isField e.1 = false := by
  cases s <;> simp only [SuiteStatus.entries, List.mem_cons, List.not_mem_nil, or_false] at he
  case passed | skipped =>
    subst he
    decide
  case failed | loadFailed | crashed =>
    rcases he with rfl | rfl
    · rfl
    · rfl

/-- The entries of the fields that are read where they stand. -/
theorem filter_isField_entries (o : SuiteOutcome) :
    o.entries.filter (fun e ↦ isField e.1) =
      presentEntries (o.fieldSlots (.object o.duration.entries)) := by
  have hstatus : o.status.entries.filter (fun e ↦ isField e.1) = [] := by
    apply List.filter_eq_nil_iff.mpr
    intro e he
    simp [isField_of_mem_entries he]
  calc o.entries.filter (fun e ↦ isField e.1)
      = presentEntries [("suite", some (.string o.suite)), ("test_id", o.testId.map .string),
            ("target", o.target.map fun shape ↦ .string shape.name)] ++
          presentEntries [("duration", some (.object o.duration.entries))] := by
        rw [entries, entriesUntimed, List.filter_append, List.filter_append, hstatus,
          List.append_nil, Json.filter_presentEntries]
        rfl
    _ = presentEntries (o.fieldSlots (.object o.duration.entries)) :=
        List.filterMap_append.symm

private theorem filter_not_isField_entries (o : SuiteOutcome) :
    o.entries.filter (fun e ↦ !isField e.1) = o.status.entries := by
  have hstatus : o.status.entries.filter (fun e ↦ !isField e.1) = o.status.entries := by
    apply List.filter_eq_self.mpr
    intro e he
    simp [isField_of_mem_entries he]
  rw [entries, entriesUntimed, List.filter_append, List.filter_append, hstatus,
    Json.filter_presentEntries fun key ↦ !isField key]
  exact List.append_nil _

/-- An outcome is read back from its entries in every arrangement. -/
theorem reads (hf : Rearranges f) {o : SuiteOutcome} (h : o.duration.seconds < 2 ^ 64) :
    decode.Reads (f (.object o.entries)) o := by
  intro origin
  obtain ⟨es, hes, hperm⟩ := hf.object o.entries o.nodup_keys_entries
  have hduration := Duration.reads hf h
  have hkeys : (es.map Prod.fst).Nodup := by
    refine (hperm.map Prod.fst).symm.nodup ?_
    rw [List.map_map]
    exact o.nodup_keys_entries
  have hfields : (es.filter fun e ↦ isField e.1).Perm
      (presentEntries (o.fieldSlots (f (.object o.duration.entries)))) := by
    have hfilter := hperm.filter fun e ↦ isField e.1
    rw [List.filter_map, Function.comp_def, filter_isField_entries,
      Json.map_presentEntries] at hfilter
    simpa [fieldSlots, hf.string, Function.comp_def] using hfilter
  have hstatus : (es.filter fun e ↦ !isField e.1).Perm
      (o.status.entries.map fun e ↦ (e.1, f e.2)) := by
    have hfilter := hperm.filter fun e ↦ !isField e.1
    rwa [List.filter_map, Function.comp_def, filter_not_isField_entries] at hfilter
  have haccepts : List.Forall₂ Field.Accepts fields
      (o.fieldSlots (f (.object o.duration.entries))) := by
    refine .cons (Field.accepts_of_reads (.string o.suite)) ?_
    refine .cons (Field.accepts_map_of_reads fun _ _ ↦ ⟨Json.noConfusion, .string _⟩) ?_
    refine .cons (Field.accepts_map_of_reads fun shape _ ↦
      ⟨Json.noConfusion, shape.reads_name⟩) ?_
    exact .cons (Field.accepts_of_reads hduration) .nil
  have hgathered : gather origin [] [] (Document.ofEntries es) = _ :=
    gather_ofEntries [] [] hkeys fun e he hfield ↦ Field.exists_of_accepts haccepts
      (hfields.mem_iff.mp (List.mem_filter.mpr ⟨he, hfield⟩)) origin
  have hold := Fields.hold_of_perm (by simp [fieldSlots]) hfields .missingField
  rw [hes]
  refine bind_eq_ok_iff.mpr ⟨_, hgathered, ?_⟩
  refine bind_eq_ok_iff.mpr ⟨_, hold.required rfl (.string o.suite) origin, ?_⟩
  refine bind_eq_ok_iff.mpr ⟨_, hold.optional_map rfl
    (fun _ _ ↦ ⟨Json.noConfusion, .string _⟩) origin, ?_⟩
  refine bind_eq_ok_iff.mpr ⟨_, hold.optional_map rfl
    (fun shape _ ↦ ⟨Json.noConfusion, shape.reads_name⟩) origin, ?_⟩
  refine bind_eq_ok_iff.mpr ⟨_, hold.required rfl hduration origin, ?_⟩
  exact bind_eq_ok_iff.mpr ⟨_, SuiteStatus.ofEntries_of_perm hf hstatus, rfl⟩

/-- The duration of an outcome that is read fits 64 bits. -/
theorem yieldsOnly_decode (origin : Origin) (d : Document) :
    YieldsOnly (fun o ↦ o.duration.seconds < 2 ^ 64) (decode origin d) := by
  unfold decode
  split
  · refine .bind_of_forall fun r ↦ ?_
    split
    · exact .error _
    · refine .bind_of_forall fun suite ↦ .bind_of_forall fun testId ↦ ?_
      refine .bind_of_forall fun target ↦ ?_
      refine .bind (Fields.yieldsOnly_required _ "duration" fun d ↦ Duration.yieldsOnly_decode d)
        fun duration hduration ↦ ?_
      exact .bind_of_forall fun status ↦ .ok hduration
  · exact .error _
  · exact Decoder.yieldsOnly_mismatch _ _

private theorem ofJson_entries_iff (hf : Rearranges f) (o : SuiteOutcome) :
    Decoder.ofJson decode (f (.object o.entries)) = .ok o ↔ o.duration.seconds < 2 ^ 64 := by
  constructor
  · intro h
    exact yieldsOnly_decode .value _ o h
  · intro h
    exact reads hf h .value

/-- The value that is written for an outcome. -/
def toJson (o : SuiteOutcome) : Json := (Json.object o.entries).canonical

private theorem get?_toJson (o : SuiteOutcome) {key : String} (value : Option Json)
    (h : Json.valuesAt key o.entries = value.toList) :
    o.toJson.get? key = value.map Json.canonical := by
  rw [toJson, Json.get?_canonical_object, h]
  cases value <;> rfl

private theorem valuesAt_entries_of_isField (o : SuiteOutcome) {key : String}
    (h : isField key = true) : Json.valuesAt key o.entries =
      ((o.fieldSlots (.object o.duration.entries)).lookup key).join.toList := by
  have hkeep : ∀ e : String × Json, e.1 = key → isField e.1 = true := by
    rintro e rfl
    exact h
  rw [← Json.valuesAt_filter hkeep, filter_isField_entries]
  exact Json.valuesAt_presentEntries (by simp [fieldSlots]) key

private theorem valuesAt_outcome_entries (o : SuiteOutcome) :
    Json.valuesAt "outcome" o.entries = [.string o.status.name] := by
  have hkeep : ∀ e : String × Json, e.1 = "outcome" → (!isField e.1) = true := by
    rintro e he
    rw [he]
    rfl
  rw [← Json.valuesAt_filter hkeep, filter_not_isField_entries]
  cases o.status <;> simp [SuiteStatus.entries, Json.valuesAt]

/-- An outcome is read back from the value that is written for it, and from its entries as they are
printed, just when its duration fits 64 bits, and two such outcomes are written alike only when they
are equal. The name of its status stands among its own entries, and what an outcome lacks is left
out. -/
theorem entry_faithful :
    (∀ o : SuiteOutcome, Decoder.ofJson decode o.toJson = .ok o ↔ o.duration.seconds < 2 ^ 64) ∧
    (∀ o : SuiteOutcome,
      Decoder.ofJson decode (.object o.entries) = .ok o ↔ o.duration.seconds < 2 ^ 64) ∧
    (∀ o o' : SuiteOutcome, o.duration.seconds < 2 ^ 64 → o'.duration.seconds < 2 ^ 64 →
      o.toJson = o'.toJson → o = o') ∧
    ∀ o : SuiteOutcome,
      o.toJson.get? "outcome" = some (.string o.status.name) ∧
      o.toJson.get? "test_id" = o.testId.map .string ∧
      o.toJson.get? "target" = o.target.map fun shape ↦ .string shape.name := by
  refine ⟨fun o ↦ ofJson_entries_iff .canonical o, fun o ↦ ofJson_entries_iff .id o,
    fun o o' h h' heq ↦ ?_, fun o ↦ ⟨?_, ?_, ?_⟩⟩
  · have hread := (ofJson_entries_iff .canonical o).mpr h
    have hread' := (ofJson_entries_iff .canonical o').mpr h'
    rw [← toJson, heq, toJson, hread'] at hread
    exact (Except.ok.inj hread).symm
  · exact o.get?_toJson (some _) o.valuesAt_outcome_entries
  · rw [o.get?_toJson _ (o.valuesAt_entries_of_isField rfl)]
    cases htest : o.testId <;> simp [fieldSlots, htest, Json.canonical, List.lookup_cons]
  · rw [o.get?_toJson _ (o.valuesAt_entries_of_isField rfl)]
    cases htarget : o.target <;> simp [fieldSlots, htarget, Json.canonical, List.lookup_cons]

/-- The outcome of a suite in which two assertions do not hold. -/
def archived : SuiteOutcome where
  suite := "R-001"
  testId := some "R-001-determinism"
  target := some .runtime
  status := .failed
    (.ofFailures [⟨"A1", .fatal, "no output"⟩, ⟨"A2", .advisory, "a quote: \"; and é"⟩])
  duration := ⟨18, 250000000, by decide⟩

/-- The outcome is read back, and it is not written as that of a suite which was not run. -/
theorem entry_faithful_archived :
    archived.duration.seconds < 2 ^ 64 ∧ (skipped "R-001").duration.seconds < 2 ^ 64 ∧
    Decoder.ofJson decode archived.toJson = .ok archived ∧
    Decoder.ofJson decode (.object archived.entries) = .ok archived ∧
    archived.toJson ≠ (skipped "R-001").toJson := by
  have hbound : archived.duration.seconds < 2 ^ 64 := by decide
  have hskipped : (skipped "R-001").duration.seconds < 2 ^ 64 := by decide
  obtain ⟨hvalue, hprinted, hinjective, -⟩ := entry_faithful
  refine ⟨hbound, hskipped, (hvalue _).mpr hbound, (hprinted _).mpr hbound, fun heq ↦ ?_⟩
  have htest := congrArg SuiteOutcome.testId (hinjective _ _ hbound hskipped heq)
  cases htest

end SuiteOutcome

end Certification
