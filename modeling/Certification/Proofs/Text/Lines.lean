import Certification.Text.Blank
import Mathlib.Data.List.Basic
import Mathlib.Data.List.TakeWhile

/-!
# Lines

Where a part of a text stands among the lines of the text: what is over on the line on which it
starts, and what is all of the last line. The last line is what the split into lines yields last,
and trimming a text leaves it as it is when blanks are neither its first nor its last character.
-/

namespace Certification.Text

/-! ### On one line -/

/-- The rest of a text starts on the line on which the text does. -/
def SameLine (cs rest : List Char) : Prop := ∃ used, cs = used ++ rest ∧ '\n' ∉ used

namespace SameLine

/-- A text starts on its own line. -/
theorem refl (cs : List Char) : SameLine cs cs := ⟨[], rfl, List.not_mem_nil⟩

/-- A character that is no line feed does not end the line. -/
theorem cons {c : Char} (hc : c ≠ '\n') {cs rest : List Char} (h : SameLine cs rest) :
    SameLine (c :: cs) rest := by
  obtain ⟨used, rfl, hused⟩ := h
  refine ⟨c :: used, rfl, fun hmem ↦ ?_⟩
  rcases List.mem_cons.mp hmem with heq | hmem
  · exact hc heq.symm
  · exact hused hmem

/-- Neither does a literal. -/
theorem literal (word : List Char) (hword : '\n' ∉ word) (rest : List Char) :
    SameLine (word ++ rest) rest := ⟨word, rfl, hword⟩

/-- What starts on the line of a text is a part of it. -/
theorem suffix {cs rest : List Char} (h : SameLine cs rest) : rest <:+ cs := by
  obtain ⟨used, rfl, -⟩ := h
  exact List.suffix_append used rest

/-- Digits do not end the line. -/
theorem dropDigits (cs : List Char) : SameLine cs (cs.dropWhile Char.isDigit) := by
  refine ⟨cs.takeWhile Char.isDigit, List.takeWhile_append_dropWhile.symm, fun hmem ↦ ?_⟩
  have hdigit : Char.isDigit '\n' = true := List.mem_takeWhile_imp hmem
  cases hdigit

/-- The line goes on. -/
theorem trans {cs middle rest : List Char} (h : SameLine cs middle) (h' : SameLine middle rest) :
    SameLine cs rest := by
  obtain ⟨used, rfl, hused⟩ := h
  obtain ⟨used', rfl, hused'⟩ := h'
  refine ⟨used ++ used', by rw [List.append_assoc], fun hmem ↦ ?_⟩
  exact (List.mem_append.mp hmem).elim hused hused'

end SameLine

/-! ### On the last line -/

/-- The line stands at the end of the text, right after a line feed. -/
inductive HasLine (line : List Char) : List Char → Prop where
  | start : HasLine line ('\n' :: line)
  | before (c : Char) {cs : List Char} (h : HasLine line cs) : HasLine line (c :: cs)

/-- The text is the line or ends with it. -/
def EndsWithLine (line cs : List Char) : Prop := cs = line ∨ HasLine line cs

namespace HasLine

variable {line cs : List Char}

/-- Behind a first character the line is still there. -/
theorem tail {c : Char} (h : HasLine line (c :: cs)) : EndsWithLine line cs := by
  cases h with
  | start => exact .inl rfl
  | before _ h => exact .inr h

/-- What starts on the first line of the text starts before the last one. -/
theorem sameLine {rest : List Char} (h : HasLine line cs) (hline : SameLine cs rest) :
    HasLine line rest := by
  obtain ⟨used, rfl, hused⟩ := hline
  induction used with
  | nil => exact h
  | cons c used ih =>
    have hc : c ≠ '\n' := fun hc ↦ hused (hc ▸ List.mem_cons_self)
    cases h with
    | start => exact absurd rfl hc
    | before _ h => exact ih (fun hmem ↦ hused (List.mem_cons_of_mem _ hmem)) h

end HasLine

namespace EndsWithLine

variable {line cs : List Char}

/-- A text that is empty or ends in a line feed is followed by the line. -/
theorem append {before : List Char} (h : before = [] ∨ before.getLast? = some '\n') :
    EndsWithLine line (before ++ line) := by
  rcases h with rfl | h
  · exact .inl rfl
  refine .inr ?_
  induction before with
  | nil => cases h
  | cons c before ih =>
    cases before with
    | nil =>
      obtain rfl : c = '\n' := by simpa using h
      exact .start
    | cons c' before => exact .before c (ih (by simpa using h))

/-- All of the line is at the end of the text. -/
theorem suffix (h : EndsWithLine line cs) : line <:+ cs := by
  rcases h with rfl | h
  · exact List.suffix_refl _
  · induction h with
    | start => exact List.suffix_cons _ _
    | before c _ ih => exact ih.trans (List.suffix_cons _ _)

/-- A text that does not start as the line does starts before it. -/
theorem hasLine {c first : Char} (hline : line.head? = some first)
    (h : EndsWithLine line (c :: cs)) (hc : c ≠ first) : HasLine line (c :: cs) := by
  rcases h with rfl | h
  · exact absurd (Option.some.inj hline) hc
  · exact h

/-- Behind a first character that is not the one of the line the line is still there. -/
theorem tail {c first : Char} (hline : line.head? = some first) (h : EndsWithLine line (c :: cs))
    (hc : c ≠ first) : EndsWithLine line cs := (h.hasLine hline hc).tail

/-- The line is still there behind separators, if it does not start with one. -/
theorem dropSeparators {first : Char} (hline : line.head? = some first)
    (hfirst : isSeparator first = false) (h : EndsWithLine line cs) :
    EndsWithLine line (cs.dropWhile isSeparator) := by
  induction cs with
  | nil => exact h
  | cons c cs ih =>
    by_cases hc : isSeparator c = true
    · rw [List.dropWhile_cons_of_pos hc]
      refine ih (h.tail hline ?_)
      rintro rfl
      exact absurd hc (by simp [hfirst])
    · rwa [List.dropWhile_cons_of_neg hc]

end EndsWithLine

/-! ### The split into lines -/

private theorem splitLines_of_notMem {cs : List Char} (h : '\n' ∉ cs) : splitLines cs = [cs] := by
  induction cs with
  | nil => rfl
  | cons c cs ih =>
    have hc : c ≠ '\n' := fun hc ↦ h (hc ▸ List.mem_cons_self)
    rw [splitLines, if_neg hc, ih fun hmem ↦ h (List.mem_cons_of_mem _ hmem)]

private theorem HasLine.exists_splitLines {line cs : List Char} (h : HasLine line cs)
    (hline : '\n' ∉ line) : ∃ first more, splitLines cs = first :: more ++ [line] := by
  induction h with
  | start => exact ⟨[], [], by rw [splitLines, if_pos rfl, splitLines_of_notMem hline]; rfl⟩
  | before c _ ih =>
    obtain ⟨first, more, hsplit⟩ := ih
    rw [splitLines, hsplit]
    by_cases hc : c = '\n'
    · exact ⟨[], first :: more, if_pos hc⟩
    · exact ⟨c :: first, more, if_neg hc⟩

/-- The last of the lines of a text is its last line. -/
theorem EndsWithLine.getLast?_lines {line cs : List Char} (h : EndsWithLine line cs)
    (hline : '\n' ∉ line) (hne : line ≠ []) : (lines cs).getLast? = some line := by
  have hsplit : ∃ before, splitLines cs = before ++ [line] := by
    rcases h with rfl | h
    · exact ⟨[], splitLines_of_notMem hline⟩
    · obtain ⟨first, more, hsplit⟩ := h.exists_splitLines hline
      exact ⟨first :: more, hsplit⟩
  obtain ⟨before, hsplit⟩ := hsplit
  unfold lines
  dsimp only
  rw [hsplit, List.getLast?_concat]
  split
  · next heq => exact absurd (Option.some.inj heq) hne
  · next heq => cases heq
  · next rest _ heq =>
    obtain rfl : line = rest := Option.some.inj heq
    rw [List.getLast?_concat]

/-! ### Trimming -/

private theorem dropWhile_isBlank_append {cs : List Char} (h : ∃ c ∈ cs.head?, isBlank c = false)
    (after : List Char) : (cs ++ after).dropWhile isBlank = cs ++ after := by
  obtain ⟨c, hc, hblank⟩ := h
  obtain ⟨more, rfl⟩ := List.head?_eq_some_iff.mp hc
  exact List.dropWhile_cons_of_neg (by simp [hblank])

/-- The line is neither empty nor does a blank stand at one of its ends. -/
structure IsTrimmed (line : List Char) : Prop where
  head : ∃ c ∈ line.head?, isBlank c = false
  last : ∃ c ∈ line.getLast?, isBlank c = false

/-- Of what stands around a line, trimming leaves what stands before it from the first character on
that is no blank. -/
theorem IsTrimmed.trim_append {line : List Char} (h : IsTrimmed line) (before : List Char)
    {blanks : List Char} (hblanks : ∀ c ∈ blanks, isBlank c = true) :
    trim (before ++ (line ++ blanks)) = before.dropWhile isBlank ++ line := by
  have hstart : trimStart (before ++ (line ++ blanks)) =
      before.dropWhile isBlank ++ (line ++ blanks) := by
    rw [trimStart, List.dropWhile_append]
    split
    · next hempty =>
      rw [List.isEmpty_iff.mp hempty, List.nil_append, dropWhile_isBlank_append h.head]
    · rfl
  have hlast : ∃ c ∈ line.reverse.head?, isBlank c = false := by
    rw [List.head?_reverse]
    exact h.last
  have hblanks' : ∀ c ∈ blanks.reverse, isBlank c = true := fun c hc ↦
    hblanks c (List.mem_reverse.mp hc)
  rw [trim, hstart, trimEnd, List.reverse_append, List.reverse_append, List.append_assoc,
    List.dropWhile_append_of_pos hblanks', dropWhile_isBlank_append hlast, List.reverse_append,
    List.reverse_reverse, List.reverse_reverse]

/-- A line that is trimmed is not trimmed further. -/
theorem IsTrimmed.trim_eq {line : List Char} (h : IsTrimmed line) : trim line = line := by
  have htrim := h.trim_append [] (List.forall_mem_nil _)
  rwa [List.nil_append, List.append_nil] at htrim

/-- Trimming the start of a text that is empty or ends in a line feed leaves such a text. -/
theorem getLast?_dropWhile_isBlank {before : List Char}
    (h : before = [] ∨ before.getLast? = some '\n') :
    before.dropWhile isBlank = [] ∨ (before.dropWhile isBlank).getLast? = some '\n' := by
  obtain ⟨blanks, hsplit⟩ := List.dropWhile_suffix (l := before) isBlank
  rcases h with rfl | h
  · exact .inl rfl
  · cases hdrop : before.dropWhile isBlank with
    | nil => exact .inl rfl
    | cons c more =>
      rw [hdrop] at hsplit
      rw [← hsplit, List.getLast?_append_cons] at h
      exact .inr h

end Certification.Text
