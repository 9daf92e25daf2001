import Certification.Proofs.Resolver.Ensures
import Certification.Proofs.Resolver.Steady
import Certification.Proofs.Text.Utf8
import Certification.Resolver.Program
import Mathlib.Data.List.TakeWhile

/-!
# Programs on record

A program that keeps a record of its starts: with which operation and input it was started, and what
came of it. On the record of a program that plays a resolver the declaration stands at most once,
and nothing but parses stand before it: `Settled` says what the record looks like before the program
was asked for its declaration and afterwards, and every operation of the resolver keeps it.
-/

namespace Certification

/-- A start of a program, and what came of it. -/
structure ProgramStart where
  operation : String
  input : List UInt8
  result : Except FileError Exchange

namespace ProgramStart

/-- What a start comes to when it must end within a limit. -/
def inTime? (limit : Option Duration) (x : ProgramStart) : Option Exchange :=
  x.result.toOption.filter fun e ↦ limit.all fun l ↦ e.took.toNanos < l.toNanos

/-- What a start declares. -/
def declared? (limit : Option Duration) (x : ProgramStart) : Option Json :=
  (x.inTime? limit).bind Exchange.declaration?

/-- The start ended within the limit and with success, and what it printed is the JSON value. -/
def Prints (limit : Option Duration) (x : ProgramStart) (j : Json) : Prop :=
  ∃ e, x.result = .ok e ∧ (∀ l ∈ limit, e.took.toNanos < l.toNanos) ∧ e.ending.isSuccess = true ∧
    Decoder.ofBytes Decoder.json e.output = .ok j

end ProgramStart

/-! ### What is declared -/

private theorem readFirst_of_blank {cs : List Char}
    (h : ∀ c ∈ cs, Text.isSeparator c = true ∨ c = '\x0C') :
    (Document.readFirst cs).1 = .broken := by
  rw [Document.readFirst, Document.fuelFor, Document.readValue]
  cases hcs : cs.dropWhile Text.isSeparator with
  | nil => rfl
  | cons c rest =>
    have hmem : c ∈ cs := (List.dropWhile_sublist _).subset (hcs ▸ List.mem_cons_self)
    have hc : Text.isSeparator c = false := by
      simpa [hcs] using List.head_dropWhile_not Text.isSeparator (l := cs) (by simp [hcs])
    obtain rfl : c = '\x0C' := (h c hmem).resolve_left (by simp [hc])
    rfl

/-- ASCII blanks are no JSON. -/
theorem ofBytes_json_of_blank {bytes : List UInt8} (h : bytes.all Text.isAsciiBlank = true)
    (j : Json) : Decoder.ofBytes Decoder.json bytes ≠ .ok j := by
  have hblank (b : UInt8) (hb : b ∈ bytes) :=
    Text.Utf8.ofNat_of_isAsciiBlank (List.all_eq_true.mp h b hb)
  have hpieces := Text.Utf8.pieces_of_ascii fun b hb ↦ (hblank b hb).1
  have hreading : Reading.ofBytes bytes =
      .ofChars (bytes.map fun b ↦ Char.ofNat b.toNat) := by
    rw [Reading.ofBytes, Text.Utf8.decodeUntilGap, hpieces]
    have hall : bytes.takeWhile (fun _ ↦ true) = bytes := List.takeWhile_eq_self_iff.mpr (by simp)
    simp [Function.comp_def, List.takeWhile_map, List.filterMap_map, hall]
  have hbroken : (Reading.ofBytes bytes).document = .broken := by
    rw [hreading, Reading.ofChars]
    apply readFirst_of_blank
    intro c hc
    obtain ⟨b, hb, rfl⟩ := List.mem_map.mp hc
    exact (hblank b hb).2
  rw [Decoder.ofBytes, Decoder.ofReading, hbroken]
  rintro ⟨⟩

/-- A program declares a value when it succeeds and prints it. -/
theorem Exchange.declaration?_eq_some_iff {e : Exchange} {j : Json} :
    e.declaration? = some j ↔
      e.ending.isSuccess = true ∧ Decoder.ofBytes Decoder.json e.output = .ok j := by
  have hread : (Decoder.ofBytes Decoder.json e.output).toOption = some j ↔
      Decoder.ofBytes Decoder.json e.output = .ok j := by
    cases Decoder.ofBytes Decoder.json e.output <;> simp [Except.toOption]
  unfold declaration?
  cases hs : e.ending.isSuccess with
  | false => simp
  | true =>
    cases hblank : e.output.all Text.isAsciiBlank with
    | true => simp [ofBytes_json_of_blank hblank j]
    | false => simpa using hread

/-- What a start declares is what it prints within the limit. -/
theorem ProgramStart.declared?_eq_some_iff {limit : Option Duration} {x : ProgramStart}
    {j : Json} : x.declared? limit = some j ↔ x.Prints limit j := by
  have hresult (e : Exchange) : x.result.toOption = some e ↔ x.result = .ok e := by
    cases x.result <;> simp [Except.toOption]
  simp only [declared?, inTime?, Prints, Option.bind_eq_some_iff, Option.filter_eq_some_iff,
    Exchange.declaration?_eq_some_iff, Option.all_eq_true, decide_eq_true_iff, hresult, and_assoc]
  rfl

/-! ### The record -/

/-- What the record of a program looks like, and what the program has declared if it was asked for
that: there are only parses before the first start for the declaration, and no second one. -/
inductive Settled (limit : Option Duration) :
    List ProgramStart → Option (Option Json) → Prop where
  | unasked {record : List ProgramStart} (h : ∀ x ∈ record, x.operation = "parse") :
      Settled limit record none
  | asked {before after : List ProgramStart} {x : ProgramStart}
      (hbefore : ∀ y ∈ before, y.operation = "parse") (hx : x.operation = "describe")
      (hafter : ∀ y ∈ after, y.operation ≠ "describe") :
      Settled limit (before ++ x :: after) (some (x.declared? limit))

namespace Settled

variable {limit : Option Duration} {record : List ProgramStart} {declared : Option (Option Json)}
  {x : ProgramStart}

/-- A parse may come at any time. -/
theorem parse (h : Settled limit record declared) (hx : x.operation = "parse") :
    Settled limit (record ++ [x]) declared := by
  have hsame : x.operation ≠ "describe" := by simp [hx]
  cases h with
  | unasked h =>
    refine .unasked fun y hy ↦ ?_
    rcases List.mem_append.mp hy with hy | hy
    · exact h y hy
    · rw [List.mem_singleton.mp hy, hx]
  | asked hbefore hfirst hafter =>
    rw [List.append_assoc, List.cons_append]
    refine .asked hbefore hfirst fun y hy ↦ ?_
    rcases List.mem_append.mp hy with hy | hy
    · exact hafter y hy
    · rw [List.mem_singleton.mp hy]
      exact hsame

/-- An invocation may come once the program was asked for its declaration. -/
theorem invoke {told : Option Json} (h : Settled limit record (some told))
    (hx : x.operation = "invoke") : Settled limit (record ++ [x]) (some told) := by
  cases h with
  | asked hbefore hfirst hafter =>
    rw [List.append_assoc, List.cons_append]
    refine .asked hbefore hfirst fun y hy ↦ ?_
    rcases List.mem_append.mp hy with hy | hy
    · exact hafter y hy
    · simp [List.mem_singleton.mp hy, hx]

/-- The first start for the declaration decides what is declared. -/
theorem describe (h : Settled limit record none) (hx : x.operation = "describe") :
    Settled limit (record ++ [x]) (some (x.declared? limit)) := by
  cases h with
  | unasked h => exact .asked h hx (by simp)

/-- There is no start for the declaration on record, or exactly one, which decided what is
declared. -/
theorem filter_describe (h : Settled limit record declared) :
    declared = none ∧ record.filter (·.operation = "describe") = [] ∨
      ∃ x, declared = some (x.declared? limit) ∧
        record.filter (·.operation = "describe") = [x] := by
  cases h with
  | unasked h =>
    refine .inl ⟨rfl, List.filter_eq_nil_iff.mpr fun y hy ↦ ?_⟩
    simp [h y hy]
  | @asked before after x hbefore hx hafter =>
    have hnone : before.filter (·.operation = "describe") = [] :=
      List.filter_eq_nil_iff.mpr fun y hy ↦ by simp [hbefore y hy]
    have hnomore : after.filter (·.operation = "describe") = [] :=
      List.filter_eq_nil_iff.mpr fun y hy ↦ by simpa using hafter y hy
    exact .inr ⟨x, rfl, by simp [hnone, hnomore, hx]⟩

/-- Nothing but parses come before the first start for the declaration. -/
theorem parse_of_mem_takeWhile (h : Settled limit record declared) {y : ProgramStart}
    (hy : y ∈ record.takeWhile (·.operation ≠ "describe")) : y.operation = "parse" := by
  cases h with
  | unasked h => exact h y ((List.takeWhile_sublist _).subset hy)
  | @asked before after x hbefore hx hafter =>
    have hall : ∀ z ∈ before, decide (z.operation ≠ "describe") = true := by
      intro z hz
      simp [hbefore z hz]
    rw [List.takeWhile_append_of_pos hall, List.takeWhile_cons_of_neg (by simp [hx]),
      List.append_nil] at hy
    exact hbefore y hy

end Settled

namespace Program

variable {π : Type}

/-- The program that keeps a record of its starts, those that come to nothing included. -/
def recording (p : Program π) : Program (π × List ProgramStart) where
  name := p.name
  limit := p.limit
  run operation input state :=
    let r := p.run operation input state.1
    (r.1, r.2, state.2 ++ [⟨operation, input, r.1⟩])

variable (p : Program π)

/-- What a start in a state goes on record as. -/
def startIn (operation : String) (input : List UInt8)
    (state : ProgramState (π × List ProgramStart)) : ProgramStart :=
  ⟨operation, input, (p.run operation input state.inner.1).1⟩

/- The numerals in a duration are large, so how it is counted is left open. -/
private theorem toOption_within (count : Duration → Nat) (limit : Option Duration)
    (message : Duration → String) (e : Exchange) :
    (match limit with
      | some l => if count l ≤ count e.took then .error (message l) else .ok e
      | none => .ok e : Except String Exchange).toOption =
      (some e).filter fun e ↦ limit.all fun l ↦ count e.took < count l := by
  cases limit with
  | none => rfl
  | some l =>
    simp only [Option.filter_some, Option.all_some, decide_eq_true_eq]
    by_cases h : count l ≤ count e.took
    · rw [if_pos h, if_neg (Nat.not_lt.mpr h)]
      rfl
    · rw [if_neg h, if_pos (Nat.lt_of_not_le h)]
      rfl

/-- Every start goes on record, and comes to what is on record of it within the limit. -/
theorem attempt_recording (operation : String) (input : List UInt8)
    (state : ProgramState (π × List ProgramStart)) :
    (p.recording.attempt operation input state).1.toOption =
        (p.startIn operation input state).inTime? p.limit ∧
      (p.recording.attempt operation input state).2.inner.2 =
        state.inner.2 ++ [p.startIn operation input state] := by
  have hrun : p.recording.run operation input state.inner =
      ((p.startIn operation input state).result, (p.run operation input state.inner.1).2,
        state.inner.2 ++ [p.startIn operation input state]) := rfl
  generalize p.startIn operation input state = x at hrun ⊢
  unfold attempt
  rw [hrun]
  cases hx : x.result with
  | error cause => exact ⟨by simp [ProgramStart.inTime?, hx, Except.toOption], rfl⟩
  | ok exchange =>
    refine ⟨?_, rfl⟩
    rw [ProgramStart.inTime?, hx]
    exact toOption_within Duration.toNanos p.limit _ exchange

/-- The program has declared what it is told to have declared, and its record goes with that. -/
def OnRecord (declared : Option (Option Json))
    (state : ProgramState (π × List ProgramStart)) : Prop :=
  state.declared = declared ∧ Settled p.limit state.inner.2 declared

/-! ### The calls of the resolver -/

open Trial

/-- A program that is asked for its declaration answers, now and later, as the one start for it
decides. -/
theorem ensures_tryDeclaration (declared : Option (Option Json)) :
    Ensures (p.OnRecord declared) p.recording.resolver.tryDeclaration fun told state ↦
      (∀ before ∈ declared, told = before) ∧ p.OnRecord (some told) state := by
  refine .ask fun state ⟨hdeclared, hrecord⟩ ↦ ?_
  change ∃ told, (p.recording.declaration state).1 = .ok told ∧
    (∀ before ∈ declared, told = before) ∧ p.OnRecord (some told) (p.recording.declaration state).2
  rw [declaration, hdeclared]
  cases declared with
  | some told => exact ⟨told, rfl, fun before hb ↦ Option.some.inj hb, hdeclared, hrecord⟩
  | none =>
    obtain ⟨htime, hnext⟩ := p.attempt_recording "describe" [] state
    refine ⟨_, rfl, by simp, rfl, ?_⟩
    change Settled p.limit (p.recording.attempt "describe" [] state).2.inner.2 _
    rw [hnext, htime]
    exact hrecord.describe rfl

private theorem ensures_tryDescribe (declared : Option (Option Json)) :
    Ensures (p.OnRecord declared) p.recording.resolver.tryDescribe fun told state ↦
      told = Resolver.nameOnly p.name ∧ p.OnRecord declared state :=
  .ask fun _ hs ↦ ⟨_, rfl, rfl, hs⟩

private theorem ensures_tryFingerprint (declared : Option (Option Json)) :
    Ensures (p.OnRecord declared) p.recording.resolver.tryFingerprint fun _ ↦
      p.OnRecord declared :=
  .ask fun _ hs ↦ ⟨none, rfl, hs⟩

private theorem ensures_tryInvoke (told : Option Json) (input : Json) :
    Ensures (p.OnRecord (some told)) (p.recording.resolver.tryInvoke input) fun _ ↦
      p.OnRecord (some told) := by
  refine .ask fun state ⟨hdeclared, hrecord⟩ ↦ ⟨_, rfl, ?_, ?_⟩
  · exact (declared_attempt _ _ _).trans hdeclared
  · change Settled p.limit (p.recording.attempt "invoke" _ state).2.inner.2 _
    rw [(p.attempt_recording _ _ state).2]
    exact hrecord.invoke rfl

/-- A program may parse at any time. -/
theorem ensures_tryParse (declared : Option (Option Json)) (source : String) :
    Ensures (p.OnRecord declared) (Resolver.tryParse p.recording.parse source) fun _ ↦
      p.OnRecord declared := by
  refine .ask fun state ⟨hdeclared, hrecord⟩ ↦ ⟨_, rfl, ?_, ?_⟩
  · exact (declared_attempt _ _ _).trans hdeclared
  · change Settled p.limit (p.recording.attempt "parse" _ state).2.inner.2 _
    rw [(p.attempt_recording _ _ state).2]
    exact hrecord.parse rfl

/-- An observation is held against what the one start for the declaration decides: against what the
program declares, or against its name if it declares nothing. -/
theorem ensures_observe (declared : Option (Option Json)) (repetition : Repetition) :
    Ensures (p.OnRecord declared) (p.recording.resolver.observe repetition) fun o state ↦
      ∃ told, ((∀ before ∈ declared, told = before) ∧ p.OnRecord (some told) state) ∧
        o.metadata = ⟨told.getD (Resolver.nameOnly p.name)⟩ := by
  apply Resolver.ensures_observe (p.ensures_tryDeclaration declared)
  · refine (p.ensures_tryDescribe (some none)).frame.weaken ?_
    rintro description state ⟨hsame, hname, hs⟩
    exact ⟨hname, hsame, hs⟩
  · exact fun told ↦ (p.ensures_tryFingerprint (some told)).frame
  · exact fun told ↦ (p.ensures_tryInvoke told _).frame

end Program

end Certification
