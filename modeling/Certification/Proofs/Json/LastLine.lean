import Certification.Proofs.Json.Printed
import Certification.Proofs.Json.Whole

/-!
# A text whose last line is an object

Whatever stands before it, a reader that comes to the last line of a text comes to its start: no
token holds a line feed, so none reaches into the line from before, and where the text goes on with
an object neither an array nor an object that is still open can be closed. What is read without a
fault is therefore either over before the line, or it is the object on the line itself.
-/

namespace Certification.Document

open Certification.Text

private theorem skippable_placedAt (level : Nat) (d : Document) :
    (placedAt level d).skippable = d.skippable := by
  unfold placedAt
  split
  · rfl
  · rw [skippable]

/-! ### What is read -/

section Read

variable {line : List Char}

/-- What was read is over before the last line. -/
structure OverBefore (line cs rest : List Char) : Prop where
  suffix : rest <:+ cs
  endsWithLine : EndsWithLine line rest

/-- A value that is read without a fault is over before the last line or stands on it. -/
def ValueOver (line : List Char) (fuel : Nat) : Prop :=
  ∀ level cs, EndsWithLine line cs → 2 * cs.length < fuel →
    (readValue fuel level cs).1.skippable = true →
      OverBefore line cs (readValue fuel level cs).2 ∨
        cs.dropWhile isSeparator = line ∧ (readValue fuel level cs).2 = []

/-- An array that is read without a fault is over before the last line. -/
def ItemsOver (line : List Char) (fuel : Nat) : Prop :=
  ∀ level isFirst cs, EndsWithLine line cs → 2 * cs.length + 1 < fuel →
    (readItems fuel level isFirst cs).2.1 = true →
    skippableItems (readItems fuel level isFirst cs).1 = true →
      OverBefore line cs (readItems fuel level isFirst cs).2.2

/-- An object that is read without a fault is over before the last line. -/
def EntriesOver (line : List Char) (fuel : Nat) : Prop :=
  ∀ level isFirst cs, EndsWithLine line cs → 2 * cs.length + 1 < fuel →
    (readEntries fuel level isFirst cs).2.1 = true →
    skippableEntries (readEntries fuel level isFirst cs).1 = true →
      OverBefore line cs (readEntries fuel level isFirst cs).2.2

/-- The line is an object, which is read to the end of the text wherever it stands. -/
structure IsObjectLine (line : List Char) : Prop where
  head : line.head? = some '{'
  rest : ∀ fuel level, 2 * line.length < fuel → (readValue fuel level line).2 = []

namespace OverBefore

variable {cs middle rest : List Char}

private theorem of_suffix (h : OverBefore line middle rest) (hmiddle : middle <:+ cs) :
    OverBefore line cs rest := ⟨h.suffix.trans hmiddle, h.endsWithLine⟩

private theorem of_sameLine (h : HasLine line cs) (hrest : SameLine cs rest) :
    OverBefore line cs rest :=
  ⟨hrest.suffix, .inr (h.sameLine hrest)⟩

/-- A mark that follows a value stands before the last line. -/
theorem mark (hline : IsObjectLine line)
    (h : OverBefore line cs middle ∨ cs.dropWhile isSeparator = line ∧ middle = []) {mark : Char}
    (hmark : mark ≠ '{') (hmiddle : middle.dropWhile isSeparator = mark :: rest) :
    OverBefore line cs rest ∧ rest.length < cs.length := by
  rcases h with h | ⟨-, rfl⟩
  · have hends := h.endsWithLine.dropSeparators hline.head (by decide)
    have hsuffix : mark :: rest <:+ cs :=
      hmiddle ▸ (List.dropWhile_suffix _).trans h.suffix
    rw [hmiddle] at hends
    exact ⟨⟨(List.suffix_cons _ _).trans hsuffix, hends.tail hline.head hmark⟩, hsuffix.length_le⟩
  · cases hmiddle

end OverBefore

/-- Closed arrays are over before the last line: where the line starts there is no bracket. -/
theorem itemsOver_step (hline : IsObjectLine line) {fuel : Nat} (hvalue : ValueOver line fuel)
    (hitems : ItemsOver line fuel) : ItemsOver line (fuel + 1) := by
  intro level isFirst cs hcs hfuel hclosed hskip
  have hends := hcs.dropSeparators hline.head (by decide)
  have hdrop : cs.dropWhile isSeparator <:+ cs := List.dropWhile_suffix _
  have hle := hdrop.length_le
  generalize hread : readItems (fuel + 1) level isFirst cs = read at hclosed hskip ⊢
  rw [readItems] at hread
  generalize cs.dropWhile isSeparator = ds at hends hdrop hle hread
  split at hread
  · next rest =>
    cases isFirst with
    | true =>
      subst hread
      exact ⟨(List.suffix_cons _ _).trans hdrop, hends.tail hline.head (by decide)⟩
    | false =>
      subst hread
      cases hclosed
  · have hover := hvalue level ds hends (by omega)
    dsimp only at hread
    split at hread
    · next later hlater =>
      subst hread
      obtain ⟨hitem, hmore⟩ := (Bool.and_eq_true _ _).mp hskip
      obtain ⟨hcomma, hlt⟩ := OverBefore.mark hline (hover hitem) (by decide) hlater
      have hrest := hitems level false later hcomma.endsWithLine (by omega) hclosed hmore
      exact (hrest.of_suffix hcomma.suffix).of_suffix hdrop
    · next later hlater =>
      subst hread
      obtain ⟨hitem, -⟩ := (Bool.and_eq_true _ _).mp hskip
      exact (OverBefore.mark hline (hover hitem) (by decide) hlater).1.of_suffix hdrop
    · subst hread
      cases hclosed

/-- Closed objects are over before the last line: where the line starts there is neither a key nor a
brace that closes. -/
theorem entriesOver_step (hline : IsObjectLine line) {fuel : Nat} (hvalue : ValueOver line fuel)
    (hentries : EntriesOver line fuel) : EntriesOver line (fuel + 1) := by
  intro level isFirst cs hcs hfuel hclosed hskip
  have hends := hcs.dropSeparators hline.head (by decide)
  have hdrop : cs.dropWhile isSeparator <:+ cs := List.dropWhile_suffix _
  have hle := hdrop.length_le
  generalize hread : readEntries (fuel + 1) level isFirst cs = read at hclosed hskip ⊢
  rw [readEntries] at hread
  generalize cs.dropWhile isSeparator = ds at hends hdrop hle hread
  split at hread
  · next rest =>
    cases isFirst with
    | true =>
      subst hread
      exact ⟨(List.suffix_cons _ _).trans hdrop, hends.tail hline.head (by decide)⟩
    | false =>
      subst hread
      cases hclosed
  · next rest =>
    -- A key is a token, so it is over on the line on which it starts.
    split at hread
    · subst hread
      cases hclosed
    next pieces after hscan =>
    have hquote := hends.hasLine hline.head (by decide)
    have hkey : OverBefore line ('"' :: rest) after :=
      .of_sameLine hquote (.cons (by decide) (sameLine_of_scanString hscan))
    dsimp only at hread
    split at hread
    · next value hvaluetext =>
      obtain ⟨hcolon, hlt⟩ := OverBefore.mark hline (.inl hkey) (by decide) hvaluetext
      have hover := hvalue level value hcolon.endsWithLine (by omega)
      split at hread
      · next later hlater =>
        subst hread
        obtain ⟨hitem, hmore⟩ := (Bool.and_eq_true _ _).mp hskip
        obtain ⟨hcomma, hlt'⟩ := OverBefore.mark hline (hover hitem) (by decide) hlater
        have hrest := hentries level false later hcomma.endsWithLine (by omega) hclosed hmore
        exact ((hrest.of_suffix hcomma.suffix).of_suffix hcolon.suffix).of_suffix hdrop
      · next later hlater =>
        subst hread
        obtain ⟨hitem, -⟩ := (Bool.and_eq_true _ _).mp hskip
        have hbrace := (OverBefore.mark hline (hover hitem) (by decide) hlater).1
        exact (hbrace.of_suffix hcolon.suffix).of_suffix hdrop
      · subst hread
        cases hclosed
    · subst hread
      cases hclosed
  · subst hread
    cases hclosed

/-- A value that is read without a fault is over before the last line or stands on it. -/
theorem valueOver_step (hline : IsObjectLine line) {fuel : Nat} (hitems : ItemsOver line fuel)
    (hentries : EntriesOver line fuel) : ValueOver line (fuel + 1) := by
  intro level cs hcs hfuel hskip
  have hends := hcs.dropSeparators hline.head (by decide)
  have hdrop : cs.dropWhile isSeparator <:+ cs := List.dropWhile_suffix _
  have hle := hdrop.length_le
  rcases hends with hstart | hlater
  · refine .inr ⟨hstart, ?_⟩
    have hline' : line.dropWhile isSeparator = line := by
      obtain ⟨more, rfl⟩ := List.head?_eq_some_iff.mp hline.head
      exact List.dropWhile_cons_of_neg (by decide)
    have hrest := hline.rest (fuel + 1) level (by rw [← hstart]; omega)
    rw [readValue, hline'] at hrest
    rwa [readValue, hstart]
  refine .inl ?_
  generalize hread : readValue (fuel + 1) level cs = read at hskip ⊢
  rw [readValue] at hread
  generalize cs.dropWhile isSeparator = ds at hlater hdrop hle hread
  refine OverBefore.of_suffix ?_ hdrop
  split at hread
  · next rest =>
    subst hread
    refine .of_sameLine hlater (.cons (by decide) (sameLine_readString fun hbroken ↦ ?_))
    rw [hbroken] at hskip
    cases hskip
  · next rest =>
    subst hread
    have hinner := hlater.tail
    rw [skippable_placedAt, skippable, Bool.and_eq_true] at hskip
    have hover := hitems (level + 1) true rest hinner (by simp at hle; omega) hskip.1 hskip.2
    exact hover.of_suffix (List.suffix_cons _ _)
  · next rest =>
    subst hread
    have hinner := hlater.tail
    rw [skippable_placedAt, skippable, Bool.and_eq_true] at hskip
    have hover := hentries (level + 1) true rest hinner (by simp at hle; omega) hskip.1 hskip.2
    exact hover.of_suffix (List.suffix_cons _ _)
  · subst hread
    exact .of_sameLine hlater (.literal ['n', 'u', 'l', 'l'] (by decide) _)
  · subst hread
    exact .of_sameLine hlater (.literal ['t', 'r', 'u', 'e'] (by decide) _)
  · subst hread
    exact .of_sameLine hlater (.literal ['f', 'a', 'l', 's', 'e'] (by decide) _)
  · split at hread
    · subst hread
      refine .of_sameLine hlater (sameLine_readNumber fun hbroken ↦ ?_)
      rw [hbroken] at hskip
      cases hskip
    · subst hread
      cases hskip
  · subst hread
    cases hskip

/-- What is read without a fault is over before the last line, unless it is a value that stands on
it. -/
theorem valueOver (hline : IsObjectLine line) (fuel : Nat) : ValueOver line fuel := by
  have hall : ValueOver line fuel ∧ ItemsOver line fuel ∧ EntriesOver line fuel := by
    induction fuel with
    | zero =>
      refine ⟨?_, ?_, ?_⟩
      · intro level cs _ hfuel
        exact absurd hfuel (Nat.not_lt_zero _)
      · intro level isFirst cs _ hfuel
        exact absurd hfuel (Nat.not_lt_zero _)
      · intro level isFirst cs _ hfuel
        exact absurd hfuel (Nat.not_lt_zero _)
    | succ fuel ih =>
      obtain ⟨hvalue, hitems, hentries⟩ := ih
      exact ⟨valueOver_step hline hitems hentries, itemsOver_step hline hvalue hitems,
        entriesOver_step hline hvalue hentries⟩
  exact hall.1

/-- A decoder that reads whole documents refuses a text that starts before its last line, when that
is an object: it does not stop before the line without leaving something else than separators, and
it does not come to the end of the line with everything closed. -/
theorem ofReading_ne_ok {α : Type} {decode : Decoder α} (hdecode : decode.ReadsWhole)
    (hline : IsObjectLine line) {cs : List Char} (hcs : EndsWithLine line cs)
    (hstart : cs.dropWhile isSeparator ≠ line) (a : α) :
    Decoder.ofReading decode (.ofChars cs) ≠ .ok a := by
  intro h
  obtain ⟨a', hdecoded, hended⟩ := bind_eq_ok_iff.mp h
  have hfuel : 2 * cs.length < fuelFor cs := by rw [fuelFor]; omega
  rcases valueOver hline _ 0 cs hcs hfuel (hdecode _ _ hdecoded) with hover | ⟨heq, -⟩
  · have hnotEnded : (Reading.ofChars cs).ended = false := by
      have hbrace : '{' ∈ (readFirst cs).2 :=
        hover.endsWithLine.suffix.subset (List.mem_of_head? hline.head)
      rw [Reading.ofChars, List.all_eq_false]
      exact ⟨'{', hbrace, by decide⟩
    rw [hnotEnded] at hended
    cases hended
  · exact hstart heq

end Read

/-! ### What is written -/

private theorem lineFeed_notMem_writeItems {items : List Json} (h : ∀ j ∈ items, '\n' ∉ j.write) :
    '\n' ∉ Json.writeItems items := by
  induction items with
  | nil => exact List.not_mem_nil
  | cons item items ih =>
    obtain ⟨hitem, hitems⟩ := List.forall_mem_cons.mp h
    simp [Json.writeItems, hitem, ih hitems]

private theorem lineFeed_notMem_writeEntries {entries : List (String × Json)}
    (h : ∀ e ∈ entries, '\n' ∉ e.2.write) : '\n' ∉ Json.writeEntries entries := by
  induction entries with
  | nil => exact List.not_mem_nil
  | cons entry entries ih =>
    obtain ⟨hentry, hentries⟩ := List.forall_mem_cons.mp h
    simp [Json.writeEntries, lineFeed_notMem_writeString, hentry, ih hentries]

/-- A value without binary64 numbers is written on one line. -/
theorem lineFeed_notMem_write {depth : Nat} {j : Json} (h : j.Fits depth) : '\n' ∉ j.write := by
  induction h with
  | null => decide
  | bool b => cases b <;> decide
  | number hn => exact lineFeed_notMem_writeNumber hn
  | string s => exact lineFeed_notMem_writeString s
  | @array _ items _ ih =>
    cases items with
    | nil => decide
    | cons item items =>
      obtain ⟨hitem, hitems⟩ := List.forall_mem_cons.mp ih
      simp [Json.write, hitem, lineFeed_notMem_writeItems hitems]
  | @object _ entries _ ih =>
    cases entries with
    | nil => decide
    | cons entry entries =>
      obtain ⟨hentry, hentries⟩ := List.forall_mem_cons.mp ih
      simp [Json.write, lineFeed_notMem_writeString, hentry,
        lineFeed_notMem_writeEntries hentries]

private theorem exists_write_object_eq (entries : List (String × Json)) :
    ∃ inner, (Json.object entries).write = '{' :: inner ++ ['}'] := by
  cases entries with
  | nil => exact ⟨[], rfl⟩
  | cons entry entries =>
    obtain ⟨key, value⟩ := entry
    exact ⟨Json.writeString key ++ ':' :: value.write ++ Json.writeEntries entries,
      by simp [Json.write]⟩

/-- So there are no blanks at its ends. -/
theorem isTrimmed_write_object (entries : List (String × Json)) :
    IsTrimmed (Json.object entries).write := by
  obtain ⟨inner, hinner⟩ := exists_write_object_eq entries
  refine ⟨⟨'{', ?_, by decide⟩, ⟨'}', ?_, by decide⟩⟩
  · rw [hinner]
    rfl
  · rw [hinner, List.getLast?_concat]
    rfl

/-- An object without binary64 numbers that is not nested too deeply is written on a line of its
own. -/
theorem isObjectLine_write {depth : Nat} {entries : List (String × Json)}
    (h : (Json.object entries).Fits depth) (hdepth : depth ≤ depthLimit) :
    IsObjectLine (Json.object entries).write := by
  refine ⟨?_, fun fuel level hfuel ↦ ?_⟩
  · obtain ⟨inner, hinner⟩ := exists_write_object_eq entries
    rw [hinner]
    rfl
  · rw [← Json.Layout.print_tight 0] at hfuel ⊢
    have hrest :
        (readValue fuel level (Json.Layout.tight.print 0 (.object entries) ++ [])).2 = [] :=
      rest_readValue_print .tight h hdepth hfuel endsNumber_nil
    rwa [List.append_nil] at hrest

end Certification.Document
