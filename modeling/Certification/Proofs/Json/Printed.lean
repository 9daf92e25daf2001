import Certification.Proofs.Json.Token

/-!
# Reading what was printed

A value is printed in a layout, which says what stands between its tokens: nothing in the compact
form, line feeds and spaces in others. As long as nothing but separators stands there, what is
printed of a value without binary64 numbers, and not too deeply nested, is read back as the value,
up to what follows it. Deeper inside other values it may be out of reach, but it ends where it
ended.
-/

namespace Certification

open Certification.Text

namespace Json

/-- What is set between the tokens of a value: a gap before each part and before a closing bracket,
which depends on the level, and a gap after a colon. -/
structure Layout where
  gap : Nat → List Char
  colon : List Char
  isSeparator_gap : ∀ level, ∀ c ∈ gap level, isSeparator c = true
  isSeparator_colon : ∀ c ∈ colon, isSeparator c = true

namespace Layout

/-- Nothing between the tokens. -/
def tight : Layout := ⟨fun _ ↦ [], [], by simp, by simp⟩

@[simp]
theorem gap_tight (level : Nat) : tight.gap level = [] := rfl

@[simp]
theorem colon_tight : tight.colon = [] := rfl

variable (l : Layout)

mutual

/-- Text of a value at a level. -/
def print (level : Nat) : Json → List Char
  | .array (item :: items) =>
    '[' :: l.gap (level + 1) ++ print (level + 1) item ++ printItems (level + 1) items ++
      l.gap level ++ [']']
  | .object ((key, value) :: entries) =>
    '{' :: l.gap (level + 1) ++ writeString key ++ ':' :: l.colon ++ print (level + 1) value ++
      printEntries (level + 1) entries ++ l.gap level ++ ['}']
  | .array [] => ['[', ']']
  | .object [] => ['{', '}']
  | .null => ['n', 'u', 'l', 'l']
  | .bool true => ['t', 'r', 'u', 'e']
  | .bool false => ['f', 'a', 'l', 's', 'e']
  | .number n => n.write
  | .string s => writeString s

/-- Text of the items after the first. -/
def printItems (level : Nat) : List Json → List Char
  | [] => []
  | item :: items => ',' :: l.gap level ++ print level item ++ printItems level items

/-- Text of the entries after the first. -/
def printEntries (level : Nat) : List (String × Json) → List Char
  | [] => []
  | (key, value) :: entries =>
    ',' :: l.gap level ++ writeString key ++ ':' :: l.colon ++ print level value ++
      printEntries level entries

end

end Layout

namespace Layout

mutual

/-- The compact form is printed without gaps. -/
theorem print_tight (level : Nat) : (j : Json) → tight.print level j = j.write
  | .null | .bool true | .bool false | .number _ | .string _ | .array [] | .object [] => by
    simp only [print, write]
  | .array (item :: items) => by
    simp [print, write, print_tight _ item, printItems_tight _ items]
  | .object ((key, value) :: entries) => by
    simp [print, write, print_tight _ value, printEntries_tight _ entries]

/-- So are the items after the first. -/
theorem printItems_tight (level : Nat) :
    (items : List Json) → tight.printItems level items = writeItems items
  | [] => rfl
  | item :: items => by
    simp [printItems, writeItems, print_tight _ item, printItems_tight _ items]

/-- So are the entries after the first. -/
theorem printEntries_tight (level : Nat) :
    (entries : List (String × Json)) → tight.printEntries level entries = writeEntries entries
  | [] => rfl
  | (key, value) :: entries => by
    simp [printEntries, writeEntries, print_tight _ value, printEntries_tight _ entries]

end

end Layout

/-! ### Values that are read back -/

/-- The value holds no binary64 number, and arrays and objects are nested in it to a depth at
most. -/
inductive Fits : Nat → Json → Prop where
  | null {depth : Nat} : Fits depth .null
  | bool {depth : Nat} (b : Bool) : Fits depth (.bool b)
  | number {depth : Nat} {n : Number} (h : n.toInt?.isSome = true) : Fits depth (.number n)
  | string {depth : Nat} (s : String) : Fits depth (.string s)
  | array {depth : Nat} {items : List Json} (h : ∀ j ∈ items, Fits depth j) :
    Fits (depth + 1) (.array items)
  | object {depth : Nat} {entries : List (String × Json)} (h : ∀ e ∈ entries, Fits depth e.2) :
    Fits (depth + 1) (.object entries)

section Fits

variable {depth : Nat}

@[simp]
theorem fits_bool (b : Bool) : Fits depth (.bool b) := .bool b

@[simp]
theorem fits_string (s : String) : Fits depth (.string s) := .string s

@[simp]
theorem fits_ofNat (n : Nat) : Fits depth (.ofNat n) := .number rfl

@[simp]
theorem fits_array_iff {items : List Json} :
    Fits (depth + 1) (.array items) ↔ ∀ j ∈ items, Fits depth j :=
  ⟨fun h ↦ by cases h; assumption, .array⟩

@[simp]
theorem fits_object_iff {entries : List (String × Json)} :
    Fits (depth + 1) (.object entries) ↔ ∀ e ∈ entries, Fits depth e.2 :=
  ⟨fun h ↦ by cases h; assumption, .object⟩

end Fits

end Json

namespace Document

private theorem dropWhile_isSeparator_append {gap : List Char} (h : ∀ c ∈ gap, isSeparator c = true)
    (cs : List Char) : (gap ++ cs).dropWhile isSeparator = cs.dropWhile isSeparator :=
  List.dropWhile_append_of_pos h

/-- A number does not go on with a mark. -/
theorem endsNumber_mark {mark : Char} (hmark : mark = ',' ∨ mark = ']' ∨ mark = '}')
    (rest : List Char) : EndsNumber (mark :: rest) := by
  intro c hc
  obtain rfl : mark = c := Option.some.inj hc
  rcases hmark with rfl | rfl | rfl <;> decide

private theorem endsNumber_gap {gap : List Char} (h : ∀ c ∈ gap, isSeparator c = true)
    {rest : List Char} (hrest : EndsNumber rest) : EndsNumber (gap ++ rest) := by
  cases gap with
  | nil => exact hrest
  | cons first more =>
    intro c hc
    obtain rfl : first = c := Option.some.inj hc
    have hfirst := h first List.mem_cons_self
    simp only [isSeparator, Bool.or_eq_true, beq_iff_eq] at hfirst
    rcases hfirst with ((rfl | rfl) | rfl) | rfl <;> decide

private theorem exists_write_eq_cons {n : Number} (h : n.toInt?.isSome = true) :
    ∃ c cs, n.write = c :: cs ∧ (c = '-' ∨ c.isDigit = true) := by
  cases n with
  | double x => cases h
  | negative n => exact ⟨'-', _, rfl, .inl rfl⟩
  | natural n =>
    cases hd : Nat.toDigits 10 n.val with
    | nil => exact absurd hd Nat.toDigits_ne_nil
    | cons c cs =>
      have hmem : c ∈ Nat.toDigits 10 n.val := hd ▸ List.mem_cons_self
      exact ⟨c, cs, hd, .inr (Nat.isDigit_of_mem_toDigits (by decide) (by decide) hmem)⟩

/-- The first character of a value. -/
def StartsValue (c : Char) : Prop :=
  c = '"' ∨ c = '[' ∨ c = '{' ∨ c = 'n' ∨ c = 't' ∨ c = 'f' ∨ c = '-' ∨ c.isDigit = true

private theorem exists_print_eq_cons (l : Json.Layout) (indent : Nat) {depth : Nat} {j : Json}
    (h : j.Fits depth) : ∃ c cs, l.print indent j = c :: cs ∧ StartsValue c := by
  cases h with
  | null => exact ⟨'n', _, rfl, by simp [StartsValue]⟩
  | bool b => cases b <;> exact ⟨_, _, rfl, by simp [StartsValue]⟩
  | number hn =>
    obtain ⟨c, cs, hcs, hc⟩ := exists_write_eq_cons hn
    exact ⟨c, cs, hcs, by simp [StartsValue, hc]⟩
  | string s => exact ⟨'"', _, rfl, by simp [StartsValue]⟩
  | @array _ items _ => cases items <;> exact ⟨'[', _, rfl, by simp [StartsValue]⟩
  | @object _ entries _ => cases entries <;> exact ⟨'{', _, rfl, by simp [StartsValue]⟩

/-- No value starts with a separator or a closing bracket. -/
theorem StartsValue.spec {c : Char} (h : StartsValue c) :
    isSeparator c = false ∧ c ≠ ']' ∧ c ≠ '}' := by
  rcases h with rfl | rfl | rfl | rfl | rfl | rfl | rfl | h
  all_goals try decide
  refine ⟨?_, ?_, ?_⟩
  · simp only [isSeparator, Bool.or_eq_false_iff, beq_eq_false_iff_ne]
    refine ⟨⟨⟨?_, ?_⟩, ?_⟩, ?_⟩ <;> rintro rfl <;> cases h
  · rintro rfl
    cases h
  · rintro rfl
    cases h

/-! ### Steps of the reader -/

section Steps

variable {fuel level : Nat} {cs rest : List Char}

private theorem readValue_gap {gap : List Char} (h : ∀ c ∈ gap, isSeparator c = true) :
    readValue fuel level (gap ++ cs) = readValue fuel level cs := by
  cases fuel with
  | zero => rfl
  | succ fuel => rw [readValue, readValue, dropWhile_isSeparator_append h]

/-- A number is read where it starts. -/
theorem readValue_of_number {c : Char} (hc : c = '-' ∨ c.isDigit = true)
    (h : cs.dropWhile isSeparator = c :: rest) :
    readValue (fuel + 1) level cs = readNumber (c :: rest) := by
  rw [readValue, h]
  have hsign : ¬('-').isDigit = true := by decide
  split
  all_goals try (next heq =>
    rw [List.cons.injEq] at heq
    obtain ⟨rfl, -⟩ := heq
    rcases hc with hc | hc <;> cases hc)
  · next c' rest' _ _ _ _ _ _ heq =>
    cases heq
    rw [if_pos hc]
  · next heq => cases heq

/-- An item is read, and what follows it says how the array goes on. -/
theorem readItems_of_ne {isFirst : Bool} {c : Char} (hc : c ≠ ']')
    (h : cs.dropWhile isSeparator = c :: rest) :
    readItems (fuel + 1) level isFirst cs =
      match (readValue fuel level (c :: rest)).2.dropWhile isSeparator with
      | ',' :: later =>
        ((readValue fuel level (c :: rest)).1 :: (readItems fuel level false later).1,
          (readItems fuel level false later).2)
      | ']' :: later => ([(readValue fuel level (c :: rest)).1], true, later)
      | _ => ([(readValue fuel level (c :: rest)).1], false, []) := by
  rw [readItems, h]
  split
  · next heq => exact absurd (List.cons.inj heq).1 hc
  · rfl

/-- After a key and a colon a value is read, and what follows it says how the object goes on. -/
theorem readEntries_of_key {isFirst : Bool} {pieces : List Piece} {after value : List Char}
    (h : cs.dropWhile isSeparator = '"' :: rest) (hscan : scanString rest = some (pieces, after))
    (hcolon : after.dropWhile isSeparator = ':' :: value) :
    readEntries (fuel + 1) level isFirst cs =
      match (readValue fuel level value).2.dropWhile isSeparator with
      | ',' :: later =>
        ((textOf? pieces, (readValue fuel level value).1) :: (readEntries fuel level false later).1,
          (readEntries fuel level false later).2)
      | '}' :: later => ([(textOf? pieces, (readValue fuel level value).1)], true, later)
      | _ => ([(textOf? pieces, (readValue fuel level value).1)], false, []) := by
  rw [readEntries, h]
  split
  · next heq => cases heq
  · next heq =>
    cases heq
    rw [hscan]
    dsimp only
    rw [hcolon]
    rfl
  · next hquote => exact absurd rfl (hquote rest)

end Steps

/-! ### Reading back -/

/-- What is printed of a value is read back, at a level that leaves room for its depth. -/
def ReadsBack (l : Json.Layout) (depth : Nat) (j : Json) : Prop :=
  ∀ fuel level indent rest, level + depth ≤ depthLimit → 2 * (l.print indent j).length < fuel →
    EndsNumber rest → readValue fuel level (l.print indent j ++ rest) = (ofJson j, rest)

section Parts

variable (l : Json.Layout) {depth fuel level indent : Nat}

/-- A printed item is read back, and what follows it says how the array goes on. -/
theorem readItems_printed {isFirst : Bool} {item : Json} {tail : List Char}
    (hfits : item.Fits depth) (hread : ReadsBack l depth item) (hlevel : level + depth ≤ depthLimit)
    (hfuel : 2 * (l.print indent item).length < fuel) (htail : EndsNumber tail) :
    readItems (fuel + 1) level isFirst (l.gap indent ++ (l.print indent item ++ tail)) =
      match tail.dropWhile isSeparator with
      | ',' :: later =>
        (ofJson item :: (readItems fuel level false later).1,
          (readItems fuel level false later).2)
      | ']' :: later => ([ofJson item], true, later)
      | _ => ([ofJson item], false, []) := by
  obtain ⟨c, cs, hprint, hc⟩ := exists_print_eq_cons l indent hfits
  obtain ⟨hseparator, hbracket, -⟩ := hc.spec
  have hvalue := hread fuel level indent tail hlevel hfuel htail
  rw [hprint, List.cons_append] at hvalue ⊢
  rw [readItems_of_ne hbracket, hvalue]
  rw [dropWhile_isSeparator_append (l.isSeparator_gap _)]
  exact List.dropWhile_cons_of_neg (by simp [hseparator])

/-- A printed entry is read back, and what follows it says how the object goes on. -/
theorem readEntries_printed {isFirst : Bool} (key : String) {value : Json} {tail : List Char}
    (hread : ReadsBack l depth value) (hlevel : level + depth ≤ depthLimit)
    (hfuel : 2 * (l.print indent value).length < fuel) (htail : EndsNumber tail) :
    readEntries (fuel + 1) level isFirst (l.gap indent ++ (Json.writeString key ++
        ':' :: (l.colon ++ (l.print indent value ++ tail)))) =
      match tail.dropWhile isSeparator with
      | ',' :: later =>
        ((some key, ofJson value) :: (readEntries fuel level false later).1,
          (readEntries fuel level false later).2)
      | '}' :: later => ([(some key, ofJson value)], true, later)
      | _ => ([(some key, ofJson value)], false, []) := by
  let after := ':' :: (l.colon ++ (l.print indent value ++ tail))
  obtain ⟨pieces, hscan, hjoin⟩ := scanString_escaped key.toList after
  have hkey : textOf? pieces = some key := by
    rw [textOf?, hjoin, Option.map_some, String.ofList_toList]
  have hvalue : readValue fuel level (l.colon ++ (l.print indent value ++ tail)) =
      (ofJson value, tail) := by
    rw [readValue_gap l.isSeparator_colon]
    exact hread fuel level indent tail hlevel hfuel htail
  have hdrop : (l.gap indent ++ (Json.writeString key ++ after)).dropWhile isSeparator =
      '"' :: (key.toList.flatMap Json.escapeChar ++ '"' :: after) := by
    rw [dropWhile_isSeparator_append (l.isSeparator_gap _), Json.writeString, List.cons_append,
      List.cons_append, List.append_assoc]
    exact List.dropWhile_cons_of_neg (by decide)
  have hcolon : after.dropWhile isSeparator = after := List.dropWhile_cons_of_neg (by decide)
  rw [readEntries_of_key hdrop hscan hcolon, hvalue, hkey]

/-- Printed items are read back up to the closing bracket. -/
theorem readItems_print {outer : Nat} {isFirst : Bool} {item : Json} {items : List Json}
    (hfits : ∀ j ∈ item :: items, j.Fits depth) (hread : ∀ j ∈ item :: items, ReadsBack l depth j)
    (hlevel : level + depth ≤ depthLimit)
    (hfuel : 2 * (l.print indent item ++ l.printItems indent items).length + 1 < fuel)
    (rest : List Char) :
    readItems fuel level isFirst (l.gap indent ++ (l.print indent item ++
        (l.printItems indent items ++ (l.gap outer ++ ']' :: rest)))) =
      (ofItems (item :: items), true, rest) := by
  induction items generalizing item fuel isFirst with
  | nil =>
    obtain ⟨fuel, rfl⟩ : ∃ n, fuel = n + 1 := ⟨fuel - 1, by omega⟩
    simp only [Json.Layout.printItems, List.nil_append, List.append_nil] at hfuel ⊢
    have hends := endsNumber_gap (l.isSeparator_gap outer) (endsNumber_mark (.inr (.inl rfl)) rest)
    rw [readItems_printed l (hfits _ List.mem_cons_self) (hread _ List.mem_cons_self) hlevel
      (by omega) hends, dropWhile_isSeparator_append (l.isSeparator_gap _)]
    rfl
  | cons next items ih =>
    obtain ⟨fuel, rfl⟩ : ∃ n, fuel = n + 1 := ⟨fuel - 1, by omega⟩
    simp only [Json.Layout.printItems, List.cons_append, List.append_assoc, List.length_append,
      List.length_cons] at hfuel ⊢
    rw [readItems_printed l (hfits _ List.mem_cons_self) (hread _ List.mem_cons_self) hlevel
      (by omega) (endsNumber_mark (.inl rfl) _), List.dropWhile_cons_of_neg (by decide)]
    change (ofJson item :: (readItems fuel level false _).1, (readItems fuel level false _).2) = _
    rw [ih (fun j hj ↦ hfits j (List.mem_cons_of_mem _ hj))
      (fun j hj ↦ hread j (List.mem_cons_of_mem _ hj)) (by rw [List.length_append]; omega)]
    rfl

/-- Printed entries are read back up to the closing brace. -/
theorem readEntries_print {outer : Nat} {isFirst : Bool} {key : String} {value : Json}
    {entries : List (String × Json)}
    (hread : ∀ e ∈ (key, value) :: entries, ReadsBack l depth e.2)
    (hlevel : level + depth ≤ depthLimit)
    (hfuel : 2 * (l.print indent value ++ l.printEntries indent entries).length + 1 < fuel)
    (rest : List Char) :
    readEntries fuel level isFirst (l.gap indent ++ (Json.writeString key ++
        ':' :: (l.colon ++ (l.print indent value ++
          (l.printEntries indent entries ++ (l.gap outer ++ '}' :: rest)))))) =
      (ofEntries ((key, value) :: entries), true, rest) := by
  have hvalue : ReadsBack l depth value := hread (key, value) List.mem_cons_self
  induction entries generalizing key value fuel isFirst with
  | nil =>
    obtain ⟨fuel, rfl⟩ : ∃ n, fuel = n + 1 := ⟨fuel - 1, by omega⟩
    simp only [Json.Layout.printEntries, List.nil_append, List.append_nil] at hfuel ⊢
    have hends := endsNumber_gap (l.isSeparator_gap outer) (endsNumber_mark (.inr (.inr rfl)) rest)
    rw [readEntries_printed l key hvalue hlevel (by omega) hends,
      dropWhile_isSeparator_append (l.isSeparator_gap _)]
    rfl
  | cons next entries ih =>
    obtain ⟨fuel, rfl⟩ : ∃ n, fuel = n + 1 := ⟨fuel - 1, by omega⟩
    obtain ⟨key', value'⟩ := next
    simp only [Json.Layout.printEntries, List.cons_append, List.append_assoc, List.length_append,
      List.length_cons] at hfuel ⊢
    rw [readEntries_printed l key hvalue hlevel (by omega)
      (endsNumber_mark (.inl rfl) _), List.dropWhile_cons_of_neg (by decide)]
    change ((some key, ofJson value) :: (readEntries fuel level false _).1,
      (readEntries fuel level false _).2) = _
    have hmore := fun e he ↦ hread e (List.mem_cons_of_mem _ he)
    rw [ih hmore (by rw [List.length_append]; omega) (hmore (key', value') List.mem_cons_self)]
    rfl

end Parts

/-- What is printed of a value without binary64 numbers is read back, at a level that leaves room
for its depth. -/
theorem readsBack_of_fits (l : Json.Layout) {depth : Nat} {j : Json} (h : j.Fits depth) :
    ReadsBack l depth j := by
  intro fuel level indent rest hlevel hfuel hrest
  obtain ⟨fuel, rfl⟩ : ∃ n, fuel = n + 1 := ⟨fuel - 1, by omega⟩
  induction h generalizing fuel level indent rest with
  | null => rfl
  | bool b => cases b <;> rfl
  | string s =>
    rw [Json.Layout.print, Json.writeString, List.cons_append, List.cons_append, List.append_assoc]
    exact readString_escaped s rest
  | number hn =>
    obtain ⟨c, cs, hwrite, hc⟩ := exists_write_eq_cons hn
    have hread := readNumber_write hn hrest
    have hstarts : StartsValue c := by simp [StartsValue, hc]
    have hdrop : (c :: (cs ++ rest)).dropWhile isSeparator = c :: (cs ++ rest) :=
      List.dropWhile_cons_of_neg (by simp [hstarts.spec.1])
    rw [Json.Layout.print]
    rw [hwrite, List.cons_append] at hread ⊢
    rw [readValue_of_number hc hdrop, hread]
    rfl
  | @array depth items h ih =>
    have hplaced : placedAt (level + 1) (.array (ofItems items) true) = ofJson (.array items) :=
      if_pos (by omega)
    cases items with
    | nil =>
      cases fuel with
      | zero => simp [Json.Layout.print] at hfuel
      | succ fuel =>
        change (placedAt (level + 1) (.array (ofItems []) true), rest) = _
        rw [hplaced]
    | cons item items =>
      have hitems : ∀ j ∈ item :: items, ReadsBack l depth j := by
        intro j hj fuel level indent rest hlevel hfuel hrest
        obtain ⟨fuel, rfl⟩ : ∃ n, fuel = n + 1 := ⟨fuel - 1, by omega⟩
        exact ih j hj _ _ _ hlevel hrest _ hfuel
      simp only [Json.Layout.print, List.cons_append, List.append_assoc, List.length_append,
        List.length_cons, List.length_nil] at hfuel ⊢
      change (placedAt (level + 1) (.array (readItems fuel (level + 1) true _).1
          (readItems fuel (level + 1) true _).2.1), (readItems fuel (level + 1) true _).2.2) = _
      rw [List.nil_append, readItems_print l h hitems (by omega)
        (by rw [List.length_append]; omega) rest, hplaced]
  | @object depth entries h ih =>
    have hplaced : placedAt (level + 1) (.object (ofEntries entries) true) =
        ofJson (.object entries) := if_pos (by omega)
    cases entries with
    | nil =>
      cases fuel with
      | zero => simp [Json.Layout.print] at hfuel
      | succ fuel =>
        change (placedAt (level + 1) (.object (ofEntries []) true), rest) = _
        rw [hplaced]
    | cons entry entries =>
      obtain ⟨key, value⟩ := entry
      have hentries : ∀ e ∈ (key, value) :: entries, ReadsBack l depth e.2 := by
        intro e he fuel level indent rest hlevel hfuel hrest
        obtain ⟨fuel, rfl⟩ : ∃ n, fuel = n + 1 := ⟨fuel - 1, by omega⟩
        exact ih e he _ _ _ hlevel hrest _ hfuel
      simp only [Json.Layout.print, List.cons_append, List.append_assoc, List.length_append,
        List.length_cons, List.length_nil] at hfuel ⊢
      change (placedAt (level + 1) (.object (readEntries fuel (level + 1) true _).1
          (readEntries fuel (level + 1) true _).2.1),
        (readEntries fuel (level + 1) true _).2.2) = _
      rw [List.nil_append, readEntries_print l hentries (by omega)
        (by rw [List.length_append]; omega) rest, hplaced]

/-- What is printed of a value is the first value that is read, up to what follows it. -/
theorem readFirst_print (l : Json.Layout) {depth : Nat} {j : Json} (h : j.Fits depth)
    (hdepth : depth ≤ depthLimit) {rest : List Char} (hrest : EndsNumber rest) :
    readFirst (l.print 0 j ++ rest) = (ofJson j, rest) := by
  refine readsBack_of_fits l h _ 0 0 rest (by omega) ?_ hrest
  rw [fuelFor, List.length_append]
  omega

/-- What is written of a value as a whole is read as the value. -/
theorem readFirst_write {depth : Nat} {j : Json} (h : j.Fits depth) (hdepth : depth ≤ depthLimit) :
    readFirst j.write = (ofJson j, []) := by
  have hprint := readFirst_print .tight h hdepth endsNumber_nil
  rwa [Json.Layout.print_tight, List.append_nil] at hprint

/-! ### Where a value ends -/

/-- Where a value, an array or an object ends does not depend on the level at which it stands. -/
theorem rest_eq_of_level (fuel level level' : Nat) :
    (∀ cs, (readValue fuel level cs).2 = (readValue fuel level' cs).2) ∧
      (∀ isFirst cs, (readItems fuel level isFirst cs).2 = (readItems fuel level' isFirst cs).2) ∧
        ∀ isFirst cs,
          (readEntries fuel level isFirst cs).2 = (readEntries fuel level' isFirst cs).2 := by
  induction fuel generalizing level level' with
  | zero => exact ⟨fun _ ↦ rfl, fun _ _ ↦ rfl, fun _ _ ↦ rfl⟩
  | succ fuel ih =>
    obtain ⟨hvalue, hitems, hentries⟩ := ih level level'
    obtain ⟨-, hitems', hentries'⟩ := ih (level + 1) (level' + 1)
    refine ⟨fun cs ↦ ?_, fun isFirst cs ↦ ?_, fun isFirst cs ↦ ?_⟩
    · rw [readValue, readValue]
      split
      all_goals try rfl
      · dsimp only
        rw [hitems']
      · dsimp only
        rw [hentries']
    · rw [readItems, readItems]
      split
      · rfl
      · dsimp only
        rw [hvalue]
        split
        · exact hitems false _
        · rfl
        · rfl
    · rw [readEntries, readEntries]
      split
      · rfl
      · split
        · rfl
        · dsimp only
          split
          · rw [hvalue]
            split
            · exact hentries false _
            · rfl
            · rfl
          · rfl
      · rfl

/-- What is printed of a value is read to its end at every level. -/
theorem rest_readValue_print (l : Json.Layout) {depth : Nat} {j : Json} (h : j.Fits depth)
    (hdepth : depth ≤ depthLimit) {fuel level indent : Nat}
    (hfuel : 2 * (l.print indent j).length < fuel) {rest : List Char} (hrest : EndsNumber rest) :
    (readValue fuel level (l.print indent j ++ rest)).2 = rest := by
  rw [(rest_eq_of_level fuel level 0).1,
    readsBack_of_fits l h fuel 0 indent rest (by omega) hfuel hrest]

end Document

end Certification
