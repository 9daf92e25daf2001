import Certification.Proofs.Json.Codec
import Certification.Proofs.Json.LastLine
import Certification.Proofs.Text.Utf8
import Certification.Resolver.Program

/-!
# Errors thrown by programs

A program that fails may log what it likes before it writes its error: the error is found again on
the last line. What was logged cannot be taken for a part of the error, nor together with it for
another one, since a reader that starts before the last line comes to its start with nothing open
that it could close.
-/

namespace Certification

namespace ResolverError

/-- What is written for the fields of an error. -/
def slots (e : ResolverError) : List (String × Option Json) :=
  [("code", e.code.map .string), ("message", some (.string e.message)),
   ("attempts", e.attempts.map .ofNat)]

/-- The number of attempts fits 32 bits. -/
def InRange (e : ResolverError) : Prop := ∀ n, e.attempts = some n → n < 2 ^ 32

variable {e : ResolverError} {entries : List (String × Json)}

/-- An error in data is read as itself, in whatever order its fields stand. -/
theorem reads_of_perm (he : e.InRange) (hentries : entries.Perm (presentEntries e.slots)) :
    decode.Reads (.object entries) e := by
  have hcode : ∀ s, e.code = some s →
      Json.string s ≠ .null ∧ Decoder.string.Reads (.string s) s :=
    fun s _ ↦ ⟨Json.noConfusion, .string s⟩
  have hattempts : ∀ n, e.attempts = some n →
      Json.ofNat n ≠ .null ∧ Decoder.nat32.Reads (.ofNat n) n :=
    fun n hn ↦ ⟨Json.noConfusion, .nat32 (he n hn)⟩
  have hshape : List.Forall₂ Field.Accepts dataShape.fields e.slots :=
    .cons (Field.accepts_map_of_reads hcode)
      (.cons (Field.accepts_of_reads (.string e.message))
        (.cons (Field.accepts_map_of_reads hattempts) .nil))
  intro origin
  obtain ⟨fs, hgather, hhold⟩ := Shape.gather_of_perm (by decide) hshape hentries origin
  have hreadCode : fs.optional origin "code" Decoder.string = .ok e.code :=
    hhold.optional_map rfl hcode origin
  have hreadMessage : fs.required origin "message" Decoder.string = .ok e.message :=
    hhold.required rfl (.string e.message) origin
  have hreadAttempts : fs.optional origin "attempts" Decoder.nat32 = .ok e.attempts :=
    hhold.optional_map rfl hattempts origin
  refine bind_eq_ok_iff.mpr ⟨fs, hgather, ?_⟩
  refine bind_eq_ok_iff.mpr ⟨e.code, hreadCode, ?_⟩
  refine bind_eq_ok_iff.mpr ⟨e.message, hreadMessage, ?_⟩
  exact bind_eq_ok_iff.mpr ⟨e.attempts, hreadAttempts, rfl⟩

private theorem readsWhole_decode : decode.ReadsWhole := by
  intro d e h
  obtain ⟨fs, hgather, -⟩ := bind_eq_ok_iff.mp h
  refine Shape.skippable_of_gather ?_ hgather
  simp only [dataShape, List.forall_mem_cons]
  exact ⟨Field.passesWhole_of Decoder.readsWhole_string.optional _ _,
    Field.passesWhole_of Decoder.readsWhole_string _ _,
    Field.passesWhole_of Decoder.readsWhole_nat32.optional _ _, List.forall_mem_nil _⟩

/-- The values of an error are texts and a number. -/
theorem fits_of_perm (hentries : entries.Perm (presentEntries e.slots)) :
    (Json.object entries).Fits 1 := by
  refine .object fun entry hentry ↦ ?_
  obtain ⟨slot, hslot, hvalue⟩ := List.mem_filterMap.mp (hentries.mem_iff.mp hentry)
  obtain ⟨j, hj, rfl⟩ := Option.map_eq_some_iff.mp hvalue
  simp only [slots, List.mem_cons, List.not_mem_nil, or_false] at hslot
  rcases hslot with rfl | rfl | rfl
  · obtain ⟨s, -, rfl⟩ := Option.map_eq_some_iff.mp hj
    exact .string s
  · obtain rfl : Json.string e.message = j := Option.some.inj hj
    exact .string e.message
  · obtain ⟨n, -, rfl⟩ := Option.map_eq_some_iff.mp hj
    exact .number rfl

end ResolverError

namespace Exchange

open Certification.Text

/-! ### The last line -/

private theorem lastLine?_eq_some {line text : List Char} (h : EndsWithLine line text)
    (hline : '\n' ∉ line) (htrimmed : IsTrimmed line) : lastLine? text = some line := by
  have hne : line ≠ [] := by
    rintro rfl
    obtain ⟨c, hc, -⟩ := htrimmed.head
    cases hc
  obtain ⟨before, hlines⟩ := List.getLast?_eq_some_iff.mp (h.getLast?_lines hline hne)
  rw [lastLine?, hlines, List.reverse_concat, List.map_cons, htrimmed.trim_eq]
  exact List.find?_cons_of_pos (by simpa using hne)

section Errors

variable {e : ResolverError} {entries : List (String × Json)}

/-- An error that is written on a line is found there. -/
theorem errorIn?_write (he : e.InRange) (hentries : entries.Perm (presentEntries e.slots)) :
    errorIn? (Json.object entries).write = some e := by
  have hread : Document.readFirst (Json.object entries).write =
      (.ofJson (.object entries), []) :=
    Document.readFirst_write (ResolverError.fits_of_perm hentries) (by decide)
  have hdecoded :
      Decoder.ofReading ResolverError.decode (.ofChars (Json.object entries).write) = .ok e := by
    refine bind_eq_ok_iff.mpr ⟨e, ?_, ?_⟩
    · rw [Reading.ofChars, hread]
      exact ResolverError.reads_of_perm he hentries .text
    · rw [Reading.ofChars, hread]
      rfl
  rw [errorIn?, Decoder.ofText, Reading.ofText, String.toList_ofList, hdecoded]
  rfl

private theorem errorIn?_eq_none (hentries : entries.Perm (presentEntries e.slots))
    {text : List Char} (htext : EndsWithLine (Json.object entries).write text)
    (hstart : text.dropWhile isSeparator ≠ (Json.object entries).write) :
    errorIn? text = none := by
  have hline := Document.isObjectLine_write (ResolverError.fits_of_perm hentries) (by decide)
  rw [errorIn?, Decoder.ofText, Reading.ofText, String.toList_ofList]
  cases h : Decoder.ofReading ResolverError.decode (.ofChars text) with
  | error cause => rfl
  | ok e' =>
    exact absurd h (Document.ofReading_ne_ok ResolverError.readsWhole_decode hline htext hstart e')

private theorem errorText_eq {x : Exchange} {noise blanks : List UInt8}
    (hnoise : noise = [] ∨ noise.getLast? = some 0x0A)
    (hblanks : ∀ b ∈ blanks, b.toNat < 0x80 ∧ isBlank (Char.ofNat b.toNat) = true)
    (herrors : x.errors = noise ++ (Utf8.encode (Json.object entries).compact ++ blanks)) :
    x.errorText =
      (Utf8.decodeLossy noise).dropWhile isBlank ++ (Json.object entries).write := by
  rw [errorText, herrors, (Utf8.decodeLossy_append_of_endsLine hnoise _).1,
    Utf8.decodeLossy_encode_append, Json.compact, String.toList_ofList]
  exact (Document.isTrimmed_write_object entries).trim_append _
    fun c hc ↦ Utf8.isBlank_of_mem_decodeLossy hblanks hc

/-- An error that is written on the last line of the error output is the one that is thrown,
whatever was logged before it. -/
theorem thrown_eq {x : Exchange} (he : e.InRange)
    (hentries : entries.Perm (presentEntries e.slots)) {noise blanks : List UInt8}
    (hnoise : noise = [] ∨ noise.getLast? = some 0x0A)
    (hblanks : ∀ b ∈ blanks, b.toNat < 0x80 ∧ isBlank (Char.ofNat b.toNat) = true)
    (herrors : x.errors = noise ++ (Utf8.encode (Json.object entries).compact ++ blanks)) :
    x.thrown = e := by
  have htext := errorText_eq hnoise hblanks herrors
  have hlogged := getLast?_dropWhile_isBlank (Utf8.decodeLossy_append_of_endsLine hnoise []).2
  have hblank := List.head?_dropWhile_not isBlank (Utf8.decodeLossy noise)
  generalize (Utf8.decodeLossy noise).dropWhile isBlank = logged at htext hlogged hblank
  have hends : EndsWithLine (Json.object entries).write x.errorText := htext ▸ .append hlogged
  have hlast : lastLine? x.errorText = some (Json.object entries).write :=
    lastLine?_eq_some hends
      (Document.lineFeed_notMem_write (ResolverError.fits_of_perm hentries))
      (Document.isTrimmed_write_object entries)
  have hfound : (errorIn? x.errorText).or ((lastLine? x.errorText).bind errorIn?) = some e := by
    rw [hlast, Option.bind_some, errorIn?_write he hentries]
    cases logged with
    | nil => rw [htext, List.nil_append, errorIn?_write he hentries, Option.some_or]
    | cons c more =>
      rw [errorIn?_eq_none hentries hends, Option.none_or]
      have hseparator : isSeparator c ≠ true := by
        intro hc
        rw [List.head?_cons] at hblank
        exact absurd (isBlank_of_isSeparator hc) (by simp [hblank])
      rw [htext, List.cons_append, List.dropWhile_cons_of_neg hseparator]
      intro heq
      have hlength := congrArg List.length heq
      simp only [List.length_cons, List.length_append] at hlength
      omega
  simp only [thrown, hfound]

end Errors

end Exchange

namespace Program

open Certification.Text

/-- A failing run throws the error that is written on the last line of its error output, with its
code, message and attempts: whatever bytes were logged before that line, in whatever order the
fields of the error stand, and whatever ASCII blanks follow it. -/
theorem invoke_throws {π : Type} (p : Program π) {input : Json} {state next : ProgramState π}
    {x : Exchange}
    (hrun : p.attempt "invoke" (Utf8.encode input.compact) state = (.ok x, next))
    (hfails : x.ending.isSuccess = false) {e : ResolverError} (he : e.InRange)
    {entries : List (String × Json)} (hentries : entries.Perm (presentEntries e.slots))
    {noise blanks : List UInt8} (hnoise : noise = [] ∨ noise.getLast? = some 0x0A)
    (hblanks : ∀ b ∈ blanks, b.toNat < 0x80 ∧ isBlank (Char.ofNat b.toNat) = true)
    (herrors : x.errors = noise ++ (Utf8.encode (Json.object entries).compact ++ blanks)) :
    x.thrown = e ∧ p.invoke input state = (.ok (.error e), next) := by
  have hthrown := Exchange.thrown_eq he hentries hnoise hblanks herrors
  have hinvocation : x.invocation = .error e := by
    simp only [Exchange.invocation, hfails, Bool.not_false, if_true, hthrown]
  refine ⟨hthrown, ?_⟩
  rw [invoke, hrun]
  dsimp only
  rw [hinvocation]

/-- An error with all of its fields. -/
def unavailable : ResolverError := ⟨some "E_BUSY", "not \"ready\"\n", some 3⟩

/-- A failing run that logs a line of JSON, a bracket that is never closed and a byte that belongs
to no character before it writes its error. -/
def noisyFailure : Exchange where
  output := []
  errors := Utf8.encode "\x7b\"message\":\"log\"\x7d\n[" ++ [0xFF, 0x0A] ++
    (Utf8.encode (Json.object (presentEntries unavailable.slots)).compact ++ [0x0D, 0x0A, 0x20])
  ending := .exited 1
  took := .zero

/-- Its error is thrown nevertheless. -/
theorem invoke_noisyFailure :
    noisyFailure.thrown = unavailable ∧
      invoke ⟨"noisy", none, fun _ _ state ↦ (.ok noisyFailure, state)⟩ .null (start ()) =
        (.ok (.error unavailable), ⟨(), none, [⟨"invoke", Utf8.encode Json.null.compact⟩]⟩) := by
  have hrange : unavailable.InRange := by
    rintro n ⟨⟩
    decide
  have hnoise : (Utf8.encode "\x7b\"message\":\"log\"\x7d\n[" ++ [0xFF, 0x0A]).getLast? =
      some 0x0A := by
    rw [List.getLast?_append]
    rfl
  have hblanks : ∀ b ∈ ([0x0D, 0x0A, 0x20] : List UInt8),
      b.toNat < 0x80 ∧ isBlank (Char.ofNat b.toNat) = true := by
    intro b hb
    simp only [List.mem_cons, List.not_mem_nil, or_false] at hb
    rcases hb with rfl | rfl | rfl <;> decide
  exact invoke_throws _ rfl rfl hrange (.refl _) (.inr hnoise) hblanks rfl

end Program

end Certification
