import Certification.Proofs.Number.Rounded

/-!
# Accessors of JSON values

An accessor finds something in the values of one kind only, and what it finds is what the value was
made of. So reading what stands under a key says which value stands there.
-/

namespace Certification

namespace Json

variable {j : Json}

/-- The text of a value is there when the value is that text. -/
theorem string?_eq_some_iff {s : String} : j.string? = some s ↔ j = .string s := by
  cases j <;> simp [string?]

/-- The items of a value are there when the value is an array of them. -/
theorem array?_eq_some_iff {items : List Json} : j.array? = some items ↔ j = .array items := by
  cases j <;> simp [array?]

/-- The entries of a value are there when the value is an object with them. -/
theorem object?_eq_some_iff {entries : List (String × Json)} :
    j.object? = some entries ↔ j = .object entries := by
  cases j <;> simp [object?]

/-- A value has a binary64 number when it is a number. -/
theorem isSome_double?_iff : j.double?.isSome = true ↔ ∃ n, j = .number n := by
  cases j with
  | number n => simpa [double?, number?, Option.isSome_iff_exists] using n.exists_toDouble?
  | _ => simp [double?, number?]

/-- Text is read where a string stands. -/
theorem bind_string?_eq_some_iff {found : Option Json} {s : String} :
    found.bind string? = some s ↔ found = some (.string s) := by
  simp [Option.bind_eq_some_iff, string?_eq_some_iff]

/-- Items are read where an array stands. -/
theorem bind_array?_eq_some_iff {found : Option Json} {items : List Json} :
    found.bind array? = some items ↔ found = some (.array items) := by
  simp [Option.bind_eq_some_iff, array?_eq_some_iff]

/-- A binary64 number is read where a number stands. -/
theorem isSome_bind_double?_iff {found : Option Json} :
    (found.bind double?).isSome = true ↔ ∃ n, found = some (.number n) := by
  cases found with
  | none => simp
  | some j => simpa using isSome_double?_iff

end Json

end Certification
