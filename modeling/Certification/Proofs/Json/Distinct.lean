import Certification.Proofs.Json.Printed
import Certification.Proofs.Number.Written

/-!
# Distinct values have distinct texts

The first character of a compact text tells the kind of the value, strings end at their closing
quote, numbers where no number goes on, and arrays and objects at their closing bracket. So a value
is told from its text and from what follows it, and two values with one compact text are one and the
same, binary64 numbers and their signs included.
-/

namespace Certification

open Certification.Document

/-! ### Kinds -/

/-- What the first character of a text tells of the value. -/
inductive Json.Kind where
  | null
  | bool (b : Bool)
  | number
  | string
  | array
  | object

/-- Kind that a character announces. -/
def Json.Kind.ofChar? (c : Char) : Option Json.Kind :=
  if c = 'n' then some .null
  else if c = 't' then some (.bool true)
  else if c = 'f' then some (.bool false)
  else if c = '"' then some .string
  else if c = '[' then some .array
  else if c = '{' then some .object
  else if c = '-' ∨ c.isDigit then some .number
  else none

private theorem Json.Kind.ofChar?_digit {c : Char} (h : c.isDigit = true) :
    ofChar? c = some .number := by
  have hne {d : Char} (hd : d.isDigit = false) : c ≠ d := by
    rintro rfl
    exact absurd (h.symm.trans hd) (by decide)
  unfold ofChar?
  rw [if_neg (hne rfl), if_neg (hne rfl), if_neg (hne rfl), if_neg (hne rfl), if_neg (hne rfl),
    if_neg (hne rfl), if_pos (.inr h)]

private theorem Number.head?_write_append (n : Number) (rest : List Char) :
    (n.write ++ rest).head?.bind Json.Kind.ofChar? = some .number := by
  obtain ⟨numeral, hnumeral, htext, -⟩ := n.exists_numeral
  obtain ⟨c, cs, hwhole, hc⟩ := hnumeral.exists_whole
  rw [← htext, Numeral.text, hwhole]
  cases numeral.negative with
  | true => rfl
  | false => exact Json.Kind.ofChar?_digit hc

namespace Json

/-- Kind of a value. -/
def kind : Json → Kind
  | .null => .null
  | .bool b => .bool b
  | .number _ => .number
  | .string _ => .string
  | .array _ => .array
  | .object _ => .object

variable {a b : Json} {rest rest' : List Char}

private theorem head?_write_append (j : Json) (rest : List Char) :
    (j.write ++ rest).head?.bind Kind.ofChar? = some j.kind := by
  cases j with
  | null => rw [write]; rfl
  | bool b => cases b <;> (rw [write]; rfl)
  | number n => rw [write]; exact n.head?_write_append rest
  | string s => rw [write]; rfl
  | array items => cases items <;> (rw [write]; rfl)
  | object entries => cases entries <;> (rw [write]; rfl)

private theorem kind_eq_of_write_append (h : a.write ++ rest = b.write ++ rest') :
    a.kind = b.kind := by
  have hkind := head?_write_append a rest
  rw [h, head?_write_append] at hkind
  exact (Option.some.inj hkind).symm

private theorem write_append_ne (j : Json) (rest rest' : List Char) :
    j.write ++ rest ≠ ']' :: rest' := by
  intro h
  have hkind := head?_write_append j rest
  rw [h] at hkind
  exact nomatch hkind

private theorem writeString_append_inj {s t : String}
    (h : writeString s ++ rest = writeString t ++ rest') : s = t ∧ rest = rest' := by
  have hwrite (u : String) (tail : List Char) :
      writeString u ++ tail = '"' :: (u.toList.flatMap escapeChar ++ '"' :: tail) := by
    simp [writeString]
  rw [hwrite, hwrite] at h
  have hread := readString_escaped s rest
  rw [(List.cons.inj h).2, readString_escaped] at hread
  obtain ⟨hstring, hrest⟩ := Prod.mk.inj hread
  exact ⟨(Document.string.inj hstring).symm, hrest.symm⟩

/-! ### Items and entries -/

private theorem endsNumber_writeItems (items : List Json) (rest : List Char) :
    EndsNumber (writeItems items ++ ']' :: rest) := by
  cases items with
  | nil => exact endsNumber_mark (.inr (.inl rfl)) rest
  | cons item items =>
    rw [writeItems]
    exact endsNumber_mark (.inl rfl) _

private theorem endsNumber_writeEntries (entries : List (String × Json)) (rest : List Char) :
    EndsNumber (writeEntries entries ++ '}' :: rest) := by
  cases entries with
  | nil => exact endsNumber_mark (.inr (.inr rfl)) rest
  | cons entry entries =>
    rw [writeEntries]
    exact endsNumber_mark (.inl rfl) _

mutual

/-- Of two values of one kind, each is told from its text and from what follows it. -/
theorem eq_of_write_append : (a b : Json) → a.kind = b.kind → {rest rest' : List Char} →
    EndsNumber rest → EndsNumber rest' → a.write ++ rest = b.write ++ rest' → a = b ∧ rest = rest'
  | .null, .null, _, _, _, _, _, h => ⟨rfl, List.append_cancel_left h⟩
  | .bool p, .bool q, hkind, _, _, _, _, h => by
    obtain rfl : p = q := Kind.bool.inj hkind
    exact ⟨rfl, List.append_cancel_left h⟩
  | .number m, .number n, _, _, _, hrest, hrest', h => by
    rw [write, write] at h
    obtain ⟨rfl, rfl⟩ := Number.write_append_inj hrest hrest' h
    exact ⟨rfl, rfl⟩
  | .string s, .string t, _, _, _, _, _, h => by
    rw [write, write] at h
    obtain ⟨rfl, rfl⟩ := writeString_append_inj h
    exact ⟨rfl, rfl⟩
  | .array [], .array [], _, _, _, _, _, h => ⟨rfl, List.append_cancel_left h⟩
  | .array [], .array (d :: ds), _, _, _, _, _, h => by
    simp only [write, List.cons_append, List.append_assoc, List.nil_append, List.cons.injEq,
      true_and] at h
    exact (write_append_ne _ _ _ h.symm).elim
  | .array (c :: cs), .array [], _, _, _, _, _, h => by
    simp only [write, List.cons_append, List.append_assoc, List.nil_append, List.cons.injEq,
      true_and] at h
    exact (write_append_ne _ _ _ h).elim
  | .array (c :: cs), .array (d :: ds), _, _, _, _, _, h => by
    simp only [write, List.cons_append, List.append_assoc, List.nil_append, List.cons.injEq,
      true_and] at h
    obtain ⟨rfl, hitems⟩ := eq_of_write_append c d (kind_eq_of_write_append h)
      (endsNumber_writeItems cs _) (endsNumber_writeItems ds _) h
    obtain ⟨rfl, rfl⟩ := eq_of_writeItems_append cs ds hitems
    exact ⟨rfl, rfl⟩
  | .object [], .object [], _, _, _, _, _, h => ⟨rfl, List.append_cancel_left h⟩
  | .object [], .object ((key, d) :: ds), _, _, _, _, _, h => by
    -- A key starts with a quote.
    simp [write, writeString] at h
  | .object ((key, c) :: cs), .object [], _, _, _, _, _, h => by
    simp [write, writeString] at h
  | .object ((key, c) :: cs), .object ((key', d) :: ds), _, _, _, _, _, h => by
    simp only [write, List.cons_append, List.append_assoc, List.nil_append, List.cons.injEq,
      true_and] at h
    obtain ⟨rfl, hcolon⟩ := writeString_append_inj h
    have hvalue := (List.cons.inj hcolon).2
    obtain ⟨rfl, hentries⟩ := eq_of_write_append c d (kind_eq_of_write_append hvalue)
      (endsNumber_writeEntries cs _) (endsNumber_writeEntries ds _) hvalue
    obtain ⟨rfl, rfl⟩ := eq_of_writeEntries_append cs ds hentries
    exact ⟨rfl, rfl⟩

/-- So are the items after the first, before the closing bracket. -/
theorem eq_of_writeItems_append : (as bs : List Json) → {rest rest' : List Char} →
    writeItems as ++ ']' :: rest = writeItems bs ++ ']' :: rest' → as = bs ∧ rest = rest'
  | [], [], _, _, h => ⟨rfl, (List.cons.inj h).2⟩
  | [], b :: bs, _, _, h => by simp [writeItems] at h
  | a :: as, [], _, _, h => by simp [writeItems] at h
  | a :: as, b :: bs, _, _, h => by
    simp only [writeItems, List.cons_append, List.append_assoc, List.cons.injEq, true_and] at h
    obtain ⟨rfl, hitems⟩ := eq_of_write_append a b (kind_eq_of_write_append h)
      (endsNumber_writeItems as _) (endsNumber_writeItems bs _) h
    obtain ⟨rfl, rfl⟩ := eq_of_writeItems_append as bs hitems
    exact ⟨rfl, rfl⟩

/-- So are the entries after the first. -/
theorem eq_of_writeEntries_append : (as bs : List (String × Json)) → {rest rest' : List Char} →
    writeEntries as ++ '}' :: rest = writeEntries bs ++ '}' :: rest' → as = bs ∧ rest = rest'
  | [], [], _, _, h => ⟨rfl, (List.cons.inj h).2⟩
  | [], b :: bs, _, _, h => by simp [writeEntries] at h
  | a :: as, [], _, _, h => by simp [writeEntries] at h
  | (key, a) :: as, (key', b) :: bs, _, _, h => by
    simp only [writeEntries, List.cons_append, List.append_assoc, List.cons.injEq, true_and] at h
    obtain ⟨rfl, hcolon⟩ := writeString_append_inj h
    have hvalue := (List.cons.inj hcolon).2
    obtain ⟨rfl, hentries⟩ := eq_of_write_append a b (kind_eq_of_write_append hvalue)
      (endsNumber_writeEntries as _) (endsNumber_writeEntries bs _) hvalue
    obtain ⟨rfl, rfl⟩ := eq_of_writeEntries_append as bs hentries
    exact ⟨rfl, rfl⟩

end

/-- Two values with one compact text are one and the same. -/
theorem compact_inj : a.compact = b.compact ↔ a = b := by
  refine ⟨fun h ↦ ?_, congrArg compact⟩
  have hwrite : a.write ++ [] = b.write ++ [] :=
    congrArg (· ++ []) (String.ofList_injective h)
  exact (eq_of_write_append a b (kind_eq_of_write_append hwrite) endsNumber_nil endsNumber_nil
    hwrite).1

end Json

end Certification
