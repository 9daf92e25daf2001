import Certification.Path.Basic
import Certification.Proofs.Chain
import Certification.Proofs.Text.Runs
import Mathlib.Data.List.Infix

/-!
# The grammar of path expressions

An expression is put together from parts: keys, and digits in brackets. In the documented grammar a
point stands in front of every key but a leading one, and nowhere else. The reader also takes a
point in front of a bracket, as long as a part precedes it. `Path.parse_iff_derives` says that it
follows the grammar with this freedom exactly, that an expression is put together in one way only,
and that the expressions beyond the documented grammar are those in which a bracket follows a point.
-/

namespace Certification

open Certification.Text

namespace Path

/-! ### Derivations -/

/-- A character of a key. -/
def isKeyChar (c : Char) : Bool := c ≠ '.' && c ≠ '[' && c ≠ ']'

/-- A step as it is spelled in an expression. -/
inductive Spelled where
  | key (name : List Char)
  | index (digits : List Char)

namespace Spelled

/-- Text of a step. -/
def text : Spelled → List Char
  | .key name => name
  | .index digits => '[' :: digits ++ [']']

/-- The step that is spelled. -/
def segment : Spelled → Segment
  | .key name => .key (String.ofList name)
  | .index digits => .index (Nat.ofDigitChars 10 digits 0)

/-- Whether the step is a key. -/
def isKey : Spelled → Bool
  | .key _ => true
  | .index _ => false

/-- A key is a run of characters of keys, and an index a run of digits whose number fits. -/
def WellFormed : Spelled → Prop
  | .key name => name ≠ [] ∧ ∀ c ∈ name, isKeyChar c = true
  | .index digits =>
    digits ≠ [] ∧ (∀ c ∈ digits, c.isDigit = true) ∧ Nat.ofDigitChars 10 digits 0 < indexLimit

end Spelled

/-- A part of an expression: a step, and whether a point stands in front of it. -/
structure Part where
  pointed : Bool
  step : Spelled

namespace Part

/-- Text of a part. -/
def text (p : Part) : List Char := if p.pointed then '.' :: p.step.text else p.step.text

/-- A part at the start of an expression. -/
structure Leads (p : Part) : Prop where
  wellFormed : p.step.WellFormed
  pointed : p.pointed = false

/-- A part after another one: a key needs its point. -/
structure Follows (p : Part) : Prop where
  wellFormed : p.step.WellFormed
  pointed : p.step.isKey = true → p.pointed = true

/-- In the documented grammar a point stands in front of keys only. -/
def IsPlain (p : Part) : Prop := p.pointed = true → p.step.isKey = true

end Part

/-- Text of parts. -/
def textOf (parts : List Part) : List Char := parts.flatMap Part.text

/-- The steps that are spelled by parts. -/
def segmentsOf (parts : List Part) : List Segment := parts.map (·.step.segment)

/-- The parts are those of an expression. -/
structure Derives (parts : List Part) (expression : String) : Prop where
  text : textOf parts = expression.toList
  leads : ∀ p ∈ parts.head?, p.Leads
  follows : ∀ p ∈ parts.tail, p.Follows

/-! ### Texts of parts -/

section Texts

variable {s t : Spelled} {p q : Part} {parts : List Part} {cs rest rest' : List Char}

private theorem Spelled.WellFormed.text_ne_nil (h : s.WellFormed) : s.text ≠ [] := by
  cases s with
  | key name => exact h.1
  | index digits => exact List.cons_ne_nil _ _

private theorem Part.text_ne_nil (h : p.step.WellFormed) : p.text ≠ [] := by
  unfold Part.text
  split
  · exact List.cons_ne_nil _ _
  · exact h.text_ne_nil

private theorem Spelled.WellFormed.point_notMem_text (h : s.WellFormed) : '.' ∉ s.text := by
  cases s with
  | key name =>
    intro hmem
    have hpoint := h.2 '.' hmem
    cases hpoint
  | index digits =>
    intro hmem
    have hdigit : '.' ∈ digits := by simpa [text] using hmem
    have hpoint := h.2.1 '.' hdigit
    cases hpoint

private theorem Part.Follows.stops (h : p.Follows) (rest : List Char) :
    Stops isKeyChar (p.text ++ rest) := by
  obtain ⟨pointed, step⟩ := p
  cases pointed with
  | true => exact .cons rfl _
  | false =>
    cases step with
    | key name => exact absurd (h.pointed rfl) Bool.false_ne_true
    | index digits => exact .cons rfl _

private theorem stops_textOf (h : ∀ p ∈ parts, p.Follows) : Stops isKeyChar (textOf parts) := by
  cases parts with
  | nil => exact .nil
  | cons p parts => exact (h p List.mem_cons_self).stops _

/-- A step is told from what follows it. -/
theorem Spelled.WellFormed.text_append_inj (hs : s.WellFormed) (ht : t.WellFormed)
    (hrest : Stops isKeyChar rest) (hrest' : Stops isKeyChar rest')
    (h : s.text ++ rest = t.text ++ rest') : s = t ∧ rest = rest' := by
  have hbracket {name digits tail tail' : List Char} (hname : (Spelled.key name).WellFormed)
      (heq : name ++ tail = '[' :: digits ++ [']'] ++ tail') : False := by
    cases name with
    | nil => exact hname.1 rfl
    | cons c name =>
      obtain ⟨rfl, -⟩ := List.cons.inj heq
      have hc := hname.2 _ List.mem_cons_self
      cases hc
  cases s with
  | key name =>
    cases t with
    | key name' =>
      obtain ⟨rfl, rfl⟩ := hrest.append_inj hrest' hs.2 ht.2 h
      exact ⟨rfl, rfl⟩
    | index digits => exact (hbracket hs h).elim
  | index digits =>
    cases t with
    | key name => exact (hbracket ht h.symm).elim
    | index digits' =>
      simp only [text, List.cons_append, List.append_assoc, List.cons.injEq, true_and,
        List.nil_append] at h
      have hclose (tail : List Char) : Stops Char.isDigit (']' :: tail) := .cons rfl tail
      obtain ⟨rfl, htail⟩ := (hclose rest).append_inj (hclose rest') hs.2.1 ht.2.1 h
      exact ⟨rfl, (List.cons.inj htail).2⟩

/-- A part is told from what follows it. -/
theorem Part.text_append_inj (hp : p.step.WellFormed) (hq : q.step.WellFormed)
    (hrest : Stops isKeyChar rest) (hrest' : Stops isKeyChar rest')
    (h : p.text ++ rest = q.text ++ rest') : p = q ∧ rest = rest' := by
  -- A point in front of one of the two parts is the first character of the other as well.
  have hpoint {s t : Spelled} {tail tail' : List Char} (hs : s.WellFormed)
      (heq : s.text ++ tail = '.' :: t.text ++ tail') : False := by
    apply hs.point_notMem_text
    cases htext : s.text with
    | nil => exact absurd htext hs.text_ne_nil
    | cons c cs =>
      rw [htext] at heq
      obtain ⟨rfl, -⟩ := List.cons.inj heq
      exact List.mem_cons_self
  obtain ⟨pointed, s⟩ := p
  obtain ⟨pointed', t⟩ := q
  cases pointed <;> cases pointed'
  · obtain ⟨rfl, rfl⟩ := hp.text_append_inj hq hrest hrest' h
    exact ⟨rfl, rfl⟩
  · exact (hpoint hp h).elim
  · exact (hpoint hq h.symm).elim
  · obtain ⟨rfl, rfl⟩ := hp.text_append_inj hq hrest hrest' (List.cons.inj h).2
    exact ⟨rfl, rfl⟩

/-- Parts that follow another one are told apart by their text. -/
theorem textOf_inj {parts parts' : List Part} (h : ∀ p ∈ parts, p.Follows)
    (h' : ∀ p ∈ parts', p.Follows) (heq : textOf parts = textOf parts') : parts = parts' := by
  induction parts generalizing parts' with
  | nil =>
    cases parts' with
    | nil => rfl
    | cons q parts' =>
      have hempty : q.text = [] := (List.append_eq_nil_iff.mp heq.symm).1
      exact absurd hempty (Part.text_ne_nil (h' q List.mem_cons_self).wellFormed)
  | cons p parts ih =>
    cases parts' with
    | nil =>
      have hempty : p.text = [] := (List.append_eq_nil_iff.mp heq).1
      exact absurd hempty (Part.text_ne_nil (h p List.mem_cons_self).wellFormed)
    | cons q parts' =>
      have hmore : ∀ p ∈ parts, p.Follows := fun x hx ↦ h x (List.mem_cons_of_mem _ hx)
      have hmore' : ∀ p ∈ parts', p.Follows := fun x hx ↦ h' x (List.mem_cons_of_mem _ hx)
      obtain ⟨rfl, htail⟩ := Part.text_append_inj (h p List.mem_cons_self).wellFormed
        (h' q List.mem_cons_self).wellFormed (stops_textOf hmore) (stops_textOf hmore') heq
      rw [ih hmore hmore' htail]

end Texts

/-! ### Steps of the reader -/

/-- The reader goes on to the end of a key, and then as after any step. -/
theorem scan_inKey (read cs : List Char) :
    scan (.inKey read) cs =
      (keyOf ((cs.takeWhile isKeyChar).reverse ++ read) :: ·) <$>
        scan (.boundary false) (cs.dropWhile isKeyChar) := by
  induction cs generalizing read with
  | nil => rfl
  | cons c cs ih =>
    by_cases hc : isKeyChar c = true
    · have hpoint : c ≠ '.' ∧ c ≠ '[' ∧ c ≠ ']' := by simpa [isKeyChar, and_assoc] using hc
      rw [List.takeWhile_cons_of_pos hc, List.dropWhile_cons_of_pos hc, scan,
        if_neg hpoint.2.1, if_neg hpoint.1, if_neg hpoint.2.2, ih]
      simp
    · rw [List.takeWhile_cons_of_neg hc, List.dropWhile_cons_of_neg hc, scan, scan]
      simp only [Bool.false_eq_true, if_false]
      split_ifs with hopen hpoint hempty hclose
      · rfl
      · rfl
      · rfl
      · rfl
      · simp [isKeyChar, hopen, hpoint, hclose] at hc

/-- The reader goes on to the end of the digits, and then takes the bracket that closes. -/
theorem scan_inIndex (read cs : List Char) :
    scan (.inIndex read) cs =
      match cs.dropWhile Char.isDigit with
      | [] => .error .unclosedBracket
      | c :: rest =>
        if c = ']' then
          match indexOf? ((cs.takeWhile Char.isDigit).reverse ++ read) with
          | some segment => (segment :: ·) <$> scan (.boundary false) rest
          | none => .error .indexOutOfRange
        else .error .notAnIndex := by
  induction cs generalizing read with
  | nil => rfl
  | cons c cs ih =>
    by_cases hc : c.isDigit = true
    · have hclose : c ≠ ']' := by
        rintro rfl
        cases hc
      rw [List.takeWhile_cons_of_pos hc, List.dropWhile_cons_of_pos hc, scan, if_neg hclose,
        if_pos hc, ih]
      simp
    · rw [List.takeWhile_cons_of_neg hc, List.dropWhile_cons_of_neg hc, scan, if_neg hc]
      rfl

section Scanned

variable {s : Spelled} {p : Part} {parts : List Part} {keyAllowed : Bool} {c : Char}
  {cs rest : List Char} {segments : List Segment}

private theorem scan_boundary_of_isKeyChar (hc : isKeyChar c = true) :
    scan (.boundary keyAllowed) (c :: cs) =
      if keyAllowed then scan (.inKey []) (c :: cs) else .error .missingSeparator := by
  have hplain : c ≠ '.' ∧ c ≠ '[' ∧ c ≠ ']' := by simpa [isKeyChar, and_assoc] using hc
  rw [scan, scan]
  simp only [if_neg hplain.1, if_neg hplain.2.1, if_neg hplain.2.2]

private theorem keyOf_reverse (name : List Char) :
    keyOf name.reverse = (Spelled.key name).segment := by
  rw [keyOf, List.reverse_reverse]
  rfl

/-- The digits of an index that was read stand for its number. -/
theorem indexOf?_reverse_eq_some_iff {digits : List Char} {segment : Segment} :
    indexOf? digits.reverse = some segment ↔
      digits ≠ [] ∧ Nat.ofDigitChars 10 digits 0 < indexLimit ∧
        (Spelled.index digits).segment = segment := by
  unfold indexOf? Spelled.segment
  simp only [List.reverse_reverse, List.isEmpty_reverse, Bool.or_eq_true, List.isEmpty_iff,
    decide_eq_true_eq]
  split_ifs with h
  · refine iff_of_false (by simp) ?_
    rintro ⟨hne, hlimit, -⟩
    exact h.elim hne (Nat.not_le.mpr hlimit)
  · obtain ⟨hne, hlimit⟩ := not_or.mp h
    simp [hne, Nat.not_le.mp hlimit]

/-- A step is read where it may stand, up to what follows it. -/
theorem scan_step (hs : s.WellFormed) (hkey : s.isKey = true → keyAllowed = true)
    (hrest : Stops isKeyChar rest) :
    scan (.boundary keyAllowed) (s.text ++ rest) =
      (s.segment :: ·) <$> scan (.boundary false) rest := by
  cases s with
  | key name =>
    have hread := scan_inKey [] (name ++ rest)
    rw [hrest.takeWhile_append hs.2, hrest.dropWhile_append hs.2] at hread
    cases name with
    | nil => exact absurd rfl hs.1
    | cons c name =>
      rw [Spelled.text, List.cons_append,
        scan_boundary_of_isKeyChar (hs.2 c List.mem_cons_self), if_pos (hkey rfl)]
      rwa [List.append_nil, keyOf_reverse] at hread
  | index digits =>
    have hclose : Stops Char.isDigit (']' :: rest) := .cons rfl rest
    have hread := scan_inIndex [] (digits ++ ']' :: rest)
    have hindex := indexOf?_reverse_eq_some_iff.mpr ⟨hs.1, hs.2.2, rfl⟩
    rw [hclose.takeWhile_append hs.2.1, hclose.dropWhile_append hs.2.1] at hread
    dsimp only at hread
    rw [if_pos rfl, List.append_nil, hindex] at hread
    simpa [Spelled.text, scan] using hread

private theorem scan_point (h : cs ≠ []) :
    scan (.boundary false) ('.' :: cs) = scan (.boundary true) cs := by
  rw [scan, if_neg (by decide), if_pos rfl, if_neg Bool.false_ne_true,
    if_neg (by simpa using h)]

private theorem scan_part (hp : p.Follows) (hrest : Stops isKeyChar rest) :
    scan (.boundary false) (p.text ++ rest) =
      (p.step.segment :: ·) <$> scan (.boundary false) rest := by
  obtain ⟨pointed, s⟩ := p
  cases pointed with
  | true =>
    rw [Part.text, if_pos rfl, List.cons_append,
      scan_point (List.append_ne_nil_of_left_ne_nil hp.wellFormed.text_ne_nil _)]
    exact scan_step hp.wellFormed (fun _ ↦ rfl) hrest
  | false => exact scan_step hp.wellFormed hp.pointed hrest

private theorem scan_textOf (h : ∀ p ∈ parts, p.Follows) :
    scan (.boundary false) (textOf parts) = .ok (segmentsOf parts) := by
  induction parts with
  | nil => rfl
  | cons p parts ih =>
    have hmore : ∀ p ∈ parts, p.Follows := fun x hx ↦ h x (List.mem_cons_of_mem _ hx)
    have htext : textOf (p :: parts) = p.text ++ textOf parts := List.flatMap_cons
    rw [htext, scan_part (h p List.mem_cons_self) (stops_textOf hmore), ih hmore]
    rfl

/-- An index that is read is a run of digits, up to the bracket that closes it. -/
theorem exists_index_of_scan (h : scan (.inIndex []) cs = .ok segments) :
    ∃ digits rest more, (Spelled.index digits).WellFormed ∧ cs = digits ++ ']' :: rest ∧
      segments = (Spelled.index digits).segment :: more ∧
      scan (.boundary false) rest = .ok more := by
  rw [scan_inIndex, List.append_nil] at h
  split at h
  · cases h
  · next c rest hdrop =>
    split_ifs at h with hclose
    split at h
    · next segment hindex =>
      obtain ⟨hne, hlimit, rfl⟩ := indexOf?_reverse_eq_some_iff.mp hindex
      obtain ⟨more, hmore, rfl⟩ := map_eq_ok_iff.mp h
      refine ⟨cs.takeWhile Char.isDigit, rest, more,
        ⟨hne, fun d hd ↦ List.mem_takeWhile_imp hd, hlimit⟩, ?_, rfl, hmore⟩
      rw [← hclose, ← hdrop, List.takeWhile_append_dropWhile]
    · cases h

/-- What is read at a boundary starts with a step that may stand there, unless it starts with a
point. -/
theorem exists_step_of_scan (h : scan (.boundary keyAllowed) (c :: cs) = .ok segments)
    (hc : c ≠ '.') :
    ∃ (s : Spelled) (rest : List Char) (more : List Segment), s.WellFormed ∧
      (s.isKey = true → keyAllowed = true) ∧ c :: cs = s.text ++ rest ∧
      segments = s.segment :: more ∧ scan (.boundary false) rest = .ok more := by
  by_cases hkey : isKeyChar c = true
  · rw [scan_boundary_of_isKeyChar hkey] at h
    split_ifs at h with hallowed
    rw [scan_inKey, List.append_nil, keyOf_reverse] at h
    obtain ⟨more, hmore, rfl⟩ := map_eq_ok_iff.mp h
    refine ⟨.key ((c :: cs).takeWhile isKeyChar), _, more,
      ⟨?_, fun d hd ↦ List.mem_takeWhile_imp hd⟩, fun _ ↦ hallowed,
      List.takeWhile_append_dropWhile.symm, rfl, hmore⟩
    rw [List.takeWhile_cons_of_pos hkey]
    exact List.cons_ne_nil _ _
  · by_cases hopen : c = '['
    · subst hopen
      obtain ⟨digits, rest, more, hwell, rfl, rfl, hmore⟩ := exists_index_of_scan h
      exact ⟨.index digits, rest, more, hwell, nofun, by simp [Spelled.text], rfl, hmore⟩
    · have hclose : c = ']' := by simpa [isKeyChar, hc, hopen] using hkey
      rw [scan, if_neg hopen, if_neg hc, if_pos hclose] at h
      cases h

/-- What is read after a part starts with another part. -/
theorem exists_part_of_scan (h : scan (.boundary false) (c :: cs) = .ok segments) :
    ∃ (p : Part) (rest : List Char) (more : List Segment), p.Follows ∧ c :: cs = p.text ++ rest ∧
      segments = p.step.segment :: more ∧ scan (.boundary false) rest = .ok more := by
  by_cases hpoint : c = '.'
  · subst hpoint
    cases cs with
    | nil => cases h
    | cons d cs =>
      rw [scan_point (List.cons_ne_nil d cs)] at h
      have hd : d ≠ '.' := by
        rintro rfl
        cases h
      obtain ⟨s, rest, more, hwell, -, htext, hsegments, hmore⟩ := exists_step_of_scan h hd
      exact ⟨⟨true, s⟩, rest, more, ⟨hwell, fun _ ↦ rfl⟩, congrArg ('.' :: ·) htext, hsegments,
        hmore⟩
  · obtain ⟨s, rest, more, hwell, hkey, htext, hsegments, hmore⟩ := exists_step_of_scan h hpoint
    exact ⟨⟨false, s⟩, rest, more, ⟨hwell, hkey⟩, htext, hsegments, hmore⟩

/-- What is read after a part are parts, up to the end. -/
theorem exists_parts_of_scan (h : scan (.boundary false) cs = .ok segments) :
    ∃ parts : List Part, (∀ p ∈ parts, p.Follows) ∧ textOf parts = cs ∧
      segmentsOf parts = segments := by
  -- By induction on the length of the text: every part takes some of it.
  induction hlength : cs.length using Nat.strongRecOn generalizing cs segments with
  | ind n ih =>
    cases cs with
    | nil => exact ⟨[], nofun, rfl, Except.ok.inj h⟩
    | cons c cs =>
      obtain ⟨p, rest, more, hp, htext, rfl, hmore⟩ := exists_part_of_scan h
      have hshorter : rest.length < n := by
        have hpos := List.length_pos_iff.mpr (Part.text_ne_nil hp.wellFormed)
        rw [← hlength, htext, List.length_append]
        omega
      obtain ⟨parts, hparts, rfl, rfl⟩ := ih rest.length hshorter hmore rfl
      exact ⟨p :: parts, List.forall_mem_cons.mpr ⟨hp, hparts⟩, htext.symm, rfl⟩

end Scanned

/-! ### Expressions -/

section Expressions

variable {parts parts' : List Part} {expression : String} {segments : List Segment}

/-- The parts of an expression are read. -/
theorem Derives.scan (h : Derives parts expression) :
    scan (.boundary true) expression.toList = .ok (segmentsOf parts) := by
  rw [← h.text]
  cases parts with
  | nil => rfl
  | cons p parts =>
    obtain ⟨hwell, hpointed⟩ := h.leads p rfl
    have hfollows : ∀ p ∈ parts, p.Follows := h.follows
    have htext : textOf (p :: parts) = p.step.text ++ textOf parts := by
      simp [textOf, Part.text, hpointed]
    rw [htext, scan_step hwell (fun _ ↦ rfl) (stops_textOf hfollows), scan_textOf hfollows]
    rfl

/-- An expression that is read has parts. -/
theorem exists_derives_of_scan (h : scan (.boundary true) expression.toList = .ok segments) :
    ∃ parts, Derives parts expression ∧ segmentsOf parts = segments := by
  cases htext : expression.toList with
  | nil =>
    rw [htext] at h
    exact ⟨[], ⟨htext.symm, nofun, nofun⟩, Except.ok.inj h⟩
  | cons c cs =>
    rw [htext] at h
    have hc : c ≠ '.' := by
      rintro rfl
      cases h
    obtain ⟨s, rest, more, hwell, -, hsplit, rfl, hmore⟩ := exists_step_of_scan h hc
    obtain ⟨parts, hparts, rfl, rfl⟩ := exists_parts_of_scan hmore
    refine ⟨⟨false, s⟩ :: parts, ⟨(htext.trans hsplit).symm, ?_, hparts⟩, rfl⟩
    intro p hp
    obtain rfl : ⟨false, s⟩ = p := Option.some.inj hp
    exact ⟨hwell, rfl⟩

/-- An expression has its parts in one way only. -/
theorem Derives.unique (h : Derives parts expression) (h' : Derives parts' expression) :
    parts = parts' := by
  have htext : textOf parts = textOf parts' := h.text.trans h'.text.symm
  cases parts with
  | nil =>
    cases parts' with
    | nil => rfl
    | cons q parts' =>
      have hempty : q.text = [] := (List.append_eq_nil_iff.mp htext.symm).1
      exact absurd hempty (Part.text_ne_nil (h'.leads q rfl).wellFormed)
  | cons p parts =>
    cases parts' with
    | nil =>
      have hempty : p.text = [] := (List.append_eq_nil_iff.mp htext).1
      exact absurd hempty (Part.text_ne_nil (h.leads p rfl).wellFormed)
    | cons q parts' =>
      obtain ⟨rfl, htail⟩ := Part.text_append_inj (h.leads p rfl).wellFormed
        (h'.leads q rfl).wellFormed (stops_textOf h.follows) (stops_textOf h'.follows) htext
      have htails : parts = parts' := textOf_inj h.follows h'.follows htail
      rw [htails]

/-- Every part of an expression is well formed. -/
theorem Derives.wellFormed (h : Derives parts expression) : ∀ p ∈ parts, p.step.WellFormed := by
  intro p hp
  cases parts with
  | nil => cases hp
  | cons q parts =>
    rcases List.mem_cons.mp hp with rfl | hp
    · exact (h.leads p rfl).wellFormed
    · exact (h.follows p hp).wellFormed

/-- Two characters that stand side by side stand so after a text without the first one. -/
theorem pair_infix_append_iff {a b : Char} {cs rest : List Char} (h : a ∉ cs) :
    [a, b] <:+: cs ++ rest ↔ [a, b] <:+: rest := by
  induction cs with
  | nil => rfl
  | cons c cs ih =>
    obtain ⟨hc, hcs⟩ : a ≠ c ∧ a ∉ cs := by simpa using h
    rw [List.cons_append, List.infix_cons_iff, List.cons_prefix_cons, ih hcs]
    simp [hc]

/-- A bracket follows a point in the text of parts when one of them is a bracket with a point. -/
theorem pointBracket_infix_textOf_iff (h : ∀ p ∈ parts, p.step.WellFormed) :
    ['.', '['] <:+: textOf parts ↔ ∃ p ∈ parts, ¬ p.IsPlain := by
  induction parts with
  | nil => simp [textOf]
  | cons p parts ih =>
    obtain ⟨hp, hmore⟩ := List.forall_mem_cons.mp h
    have htext : textOf (p :: parts) = p.text ++ textOf parts := List.flatMap_cons
    rw [htext, List.exists_mem_cons_iff, ← ih hmore]
    obtain ⟨pointed, s⟩ := p
    cases pointed with
    | false =>
      have hplain : Part.IsPlain ⟨false, s⟩ := nofun
      rw [Part.text, if_neg Bool.false_ne_true, pair_infix_append_iff hp.point_notMem_text]
      simp [hplain]
    | true =>
      have hopen : ['['] <+: s.text ++ textOf parts ↔ ¬ s.isKey = true := by
        cases s with
        | index digits => simp [Spelled.text, Spelled.isKey]
        | key name =>
          cases name with
          | nil => exact absurd rfl hp.1
          | cons c name =>
            have hc : '[' ≠ c := by
              rintro rfl
              cases hp.2 _ List.mem_cons_self
            simp [Spelled.text, Spelled.isKey, List.cons_prefix_cons, hc]
      rw [Part.text, if_pos rfl, List.cons_append, List.infix_cons_iff, List.cons_prefix_cons,
        hopen, pair_infix_append_iff hp.point_notMem_text]
      simp [Part.IsPlain]

/-- An expression is read exactly when it has parts, and then as the steps of its parts. -/
theorem parse_eq_ok_iff {p : Path} :
    parse expression = .ok p ↔
      ∃ parts, Derives parts expression ∧ segmentsOf parts = p.segments := by
  constructor
  · intro h
    obtain ⟨segments, hscan, rfl⟩ := map_eq_ok_iff.mp h
    exact exists_derives_of_scan hscan
  · rintro ⟨parts, hparts, hsegments⟩
    exact map_eq_ok_iff.mpr ⟨_, hparts.scan, by rw [hsegments]⟩

/-- The reader follows the grammar in which a point may stand in front of a bracket: an expression
is read exactly when it has parts, and then as the steps of its parts, which it has in one way only.
The documented grammar, in which points stand in front of keys only, derives the expressions among
these in which no bracket follows a point. -/
theorem parse_iff_derives (expression : String) :
    (∀ p : Path, parse expression = .ok p ↔
      ∃ parts, Derives parts expression ∧ segmentsOf parts = p.segments) ∧
    (∀ parts parts', Derives parts expression → Derives parts' expression → parts = parts') ∧
    ∀ p : Path,
      (∃ parts, Derives parts expression ∧ (∀ q ∈ parts, q.IsPlain) ∧
        segmentsOf parts = p.segments) ↔
      parse expression = .ok p ∧ ¬ ['.', '['] <:+: expression.toList := by
  refine ⟨fun _ ↦ parse_eq_ok_iff, fun _ _ ↦ Derives.unique, fun p ↦ ?_⟩
  rw [parse_eq_ok_iff]
  constructor
  · rintro ⟨parts, hparts, hplain, hsegments⟩
    refine ⟨⟨parts, hparts, hsegments⟩, ?_⟩
    rw [← hparts.text, pointBracket_infix_textOf_iff hparts.wellFormed]
    rintro ⟨q, hq, hnot⟩
    exact hnot (hplain q hq)
  · rintro ⟨⟨parts, hparts, hsegments⟩, hnone⟩
    rw [← hparts.text, pointBracket_infix_textOf_iff hparts.wellFormed] at hnone
    refine ⟨parts, hparts, fun q hq ↦ ?_, hsegments⟩
    by_contra hnot
    exact hnone ⟨q, hq, hnot⟩

/-- The documented grammar derives an expression whose index has zeros in front, and it is read as
the steps of its parts. -/
theorem parse_iff_derives_stepField :
    parse "steps[007].saveAs" = .ok ⟨[.key "steps", .index 7, .key "saveAs"]⟩ ∧
      ¬ ['.', '['] <:+: "steps[007].saveAs".toList := by
  let parts : List Part := [⟨false, .key "steps".toList⟩, ⟨false, .index "007".toList⟩,
    ⟨true, .key "saveAs".toList⟩]
  have hderives : Derives parts "steps[007].saveAs" := by
    refine ⟨by decide, fun p hp ↦ ?_, fun p hp ↦ ?_⟩
    · obtain rfl : _ = p := Option.some.inj hp
      exact ⟨⟨by decide, List.all_eq_true.mp rfl⟩, rfl⟩
    · rcases List.mem_pair.mp hp with rfl | rfl
      · exact ⟨⟨by decide, List.all_eq_true.mp rfl, by decide⟩, by decide⟩
      · exact ⟨⟨by decide, List.all_eq_true.mp rfl⟩, by decide⟩
  have hplain : ∀ q ∈ parts, q.IsPlain := by
    intro q hq
    rcases List.mem_cons.mp hq with rfl | hq
    · exact nofun
    · rcases List.mem_pair.mp hq with rfl | rfl
      · exact nofun
      · exact fun _ ↦ rfl
  exact ((parse_iff_derives "steps[007].saveAs").2.2 _).mp ⟨parts, hderives, hplain, by decide⟩

/-- A bracket after a point is read as if the point were not there, which the documented grammar
does not allow for. -/
theorem not_forall_parse_iff_plain :
    ¬ ∀ expression : String, (∃ p, parse expression = .ok p) ↔
      ∃ parts, Derives parts expression ∧ ∀ q ∈ parts, q.IsPlain := by
  intro h
  have hread : parse "a.[0]" = .ok ⟨[.key "a", .index 0]⟩ := eq_ok_of_toOption (by decide)
  obtain ⟨parts, hparts, hplain⟩ := (h "a.[0]").mp ⟨_, hread⟩
  have hnone := (pointBracket_infix_textOf_iff hparts.wellFormed).not.mpr
    (by rintro ⟨q, hq, hnot⟩; exact hnot (hplain q hq))
  rw [hparts.text] at hnone
  exact hnone ⟨['a'], ['0', ']'], by decide⟩

end Expressions

end Path

end Certification
