import Certification.Proofs.Check.Status
import Certification.Proofs.Number.Order

/-!
# Thresholds that are integers

A number in a status and the number that it is compared with are both rounded before they are
compared. So an assertion that an integer is greater than another one is never satisfied wrongly, but
it misses an integer that is rounded to the same number as the threshold below it. This does not
happen when the two are kept apart by rounding.
-/

namespace Certification

open Binary64 (Kept nearestInt)

namespace WorkflowCheck

/-- An assertion compares an integer at a path of a status with an integer. -/
structure Compares (a : Assertion) (status : ParseStatus) (threshold value : Number) (t v : Int) :
    Prop where
  kind : a.kind = AssertionKind.statusGreaterThan.name
  expected : a.expected = some (.number threshold)
  found : ∃ path, a.path? = some path ∧ path.lookup status.tree = some (.number value)
  threshold : threshold.toInt? = some t
  value : value.toInt? = some v

variable {ast : WorkflowAst} {status : ParseStatus} {a : Assertion} {threshold value : Number}
  {t v : Int}

namespace Compares

variable (h : Compares a status threshold value t v)

include h

private theorem isSatisfied_iff_lt {x y : Binary64} (hx : threshold.toDouble? = some x)
    (hy : value.toDouble? = some y) :
    a.IsSatisfied (.workflow ast status) ↔ x.units < y.units := by
  obtain ⟨path, hpath, hfound⟩ := h.found
  rw [isSatisfied_iff_lookup h.kind hpath, h.expected, hfound]
  simp [Json.double?, Json.number?, hx, hy, Binary64.lt]

private theorem isSatisfied_iff_nearestInt_lt :
    a.IsSatisfied (.workflow ast status) ↔ nearestInt 1074 t < nearestInt 1074 v := by
  obtain ⟨x, hx, hunits⟩ := Number.exists_toDouble?_of_toInt? h.threshold
  obtain ⟨y, hy, hunits'⟩ := Number.exists_toDouble?_of_toInt? h.value
  rw [h.isSatisfied_iff_lt hx hy, hunits, hunits']

/-- The check never fails to come to a result. -/
theorem exists_checkShaped_eq :
    ∃ b, AssertionKind.statusGreaterThan.checkShaped (.workflow ast status) a = .ok b := by
  obtain ⟨path, hpath, -⟩ := h.found
  obtain ⟨expression, hexpression, hparse⟩ := Assertion.path?_eq_some_iff.mp hpath
  obtain ⟨x, hx, -⟩ := Number.exists_toDouble?_of_toInt? h.threshold
  have hrequire : a.requirePath .statusGreaterThan = .ok expression :=
    Assertion.require_eq_ok_iff.mpr hexpression
  have hexpected : a.requireExpected .statusGreaterThan = .ok (.number threshold) :=
    Assertion.require_eq_ok_iff.mpr h.expected
  have hdouble : Json.double? (.number threshold) = some x := hx
  change ∃ b, statusGreaterThan status a = .ok b
  simp only [statusGreaterThan, hrequire, hexpected, hparse, hdouble, bind, Except.bind]
  exact ⟨_, rfl⟩

private theorem lt_of_isSatisfied (hsatisfied : a.IsSatisfied (.workflow ast status)) : t < v := by
  by_contra hle
  exact absurd (h.isSatisfied_iff_nearestInt_lt.mp hsatisfied)
    (Int.not_lt.mpr (Binary64.nearestInt_mono (Int.not_lt.mp hle)))

private theorem isSatisfied_iff_of_apart (hapart : t < v → nearestInt 1074 t < nearestInt 1074 v) :
    a.IsSatisfied (.workflow ast status) ↔ t < v :=
  ⟨h.lt_of_isSatisfied, fun hlt ↦ h.isSatisfied_iff_nearestInt_lt.mpr (hapart hlt)⟩

/-- An integer is greater than a threshold below it that is rounded to another value. -/
theorem isSatisfied_iff_not_sameValue {x y : Binary64} (hx : threshold.toDouble? = some x)
    (hy : value.toDouble? = some y) :
    a.IsSatisfied (.workflow ast status) ↔ t < v ∧ x.sameValue y = false := by
  have hmono (hlt : t < v) : x.units ≤ y.units := by
    obtain ⟨x', hx', hunits⟩ := Number.exists_toDouble?_of_toInt? h.threshold
    obtain ⟨y', hy', hunits'⟩ := Number.exists_toDouble?_of_toInt? h.value
    obtain rfl : x = x' := Option.some.inj (hx.symm.trans hx')
    obtain rfl : y = y' := Option.some.inj (hy.symm.trans hy')
    rw [hunits, hunits']
    exact Binary64.nearestInt_mono hlt.le
  rw [Binary64.sameValue, decide_eq_false_iff_not]
  constructor
  · intro hsatisfied
    have hunits := (h.isSatisfied_iff_lt hx hy).mp hsatisfied
    exact ⟨h.lt_of_isSatisfied hsatisfied, hunits.ne⟩
  · rintro ⟨hlt, hne⟩
    exact (h.isSatisfied_iff_lt hx hy).mpr (lt_of_le_of_ne (hmono hlt) hne)

end Compares

/-- What it takes for an integer to be greater than a threshold. Where an assertion compares an
integer of a status with an integer, the check comes to a result, and the assertion is not satisfied
unless the integer is greater. It is satisfied exactly when, besides, the two are rounded to
different values. So the assertion says that the integer is greater if both integers have at most 53
significant bits, or if the threshold lies from `-2 ^ 53` to before `2 ^ 53`, or the integer from
after `-2 ^ 53` to `2 ^ 53`; and integers of `53 + k` bits need to be more than `2 ^ k` apart, which
`2048` always is enough for. -/
theorem isSatisfied_statusGreaterThan (h : Compares a status threshold value t v) :
    (∃ b, AssertionKind.statusGreaterThan.checkShaped (.workflow ast status) a = .ok b) ∧
      (a.IsSatisfied (.workflow ast status) → t < v) ∧
      (∃ x y, threshold.toDouble? = some x ∧ value.toDouble? = some y ∧
        (a.IsSatisfied (.workflow ast status) ↔ t < v ∧ x.sameValue y = false)) ∧
      (Kept t → Kept v → (a.IsSatisfied (.workflow ast status) ↔ t < v)) ∧
      (-2 ^ 53 ≤ t ∧ t < 2 ^ 53 ∨ -2 ^ 53 < v ∧ v ≤ 2 ^ 53 →
        (a.IsSatisfied (.workflow ast status) ↔ t < v)) ∧
      (∀ k : Nat, t.natAbs < 2 ^ (53 + k) → v.natAbs < 2 ^ (53 + k) → (2 ^ k : Nat) < v - t →
        a.IsSatisfied (.workflow ast status)) ∧
      (2048 < v - t → a.IsSatisfied (.workflow ast status)) := by
  have happart (k : Nat) (ht : t.natAbs < 2 ^ (53 + k)) (hv : v.natAbs < 2 ^ (53 + k))
      (hgap : (2 ^ k : Nat) < v - t) : a.IsSatisfied (.workflow ast status) :=
    h.isSatisfied_iff_nearestInt_lt.mpr (Binary64.nearestInt_lt_of_apart ht hv hgap)
  refine ⟨h.exists_checkShaped_eq, h.lt_of_isSatisfied, ?_, fun ht hv ↦ ?_, fun hsmall ↦ ?_, happart,
    happart 11 (Number.natAbs_lt_of_toInt? h.threshold) (Number.natAbs_lt_of_toInt? h.value)⟩
  · obtain ⟨x, hx, -⟩ := Number.exists_toDouble?_of_toInt? h.threshold
    obtain ⟨y, hy, -⟩ := Number.exists_toDouble?_of_toInt? h.value
    exact ⟨x, y, hx, hy, h.isSatisfied_iff_not_sameValue hx hy⟩
  · exact h.isSatisfied_iff_of_apart (Binary64.nearestInt_lt_of_kept ht hv)
  · refine h.isSatisfied_iff_of_apart fun hlt ↦ ?_
    rcases hsmall with ht | hv
    · exact Binary64.nearestInt_lt_of_between ht le_rfl hlt
    · exact Binary64.nearestInt_lt_of_between (m := v - 1) (by omega) (by omega) (by omega)

/-- A status with a number in the field `n`. -/
def counterStatus (value : Number) : ParseStatus :=
  { warnings := [], extra := [("n", .number value)] }

/-- An assertion that the number in the field `n` is greater than a threshold. -/
def counterAbove (threshold : Number) : Assertion :=
  { Assertion.new "A" "status_greater_than" with
    path := some "n"
    expected := some (.number threshold) }

private theorem compares_counter {threshold value : Number} {t v : Int}
    (ht : threshold.toInt? = some t) (hv : value.toInt? = some v) :
    Compares (counterAbove threshold) (counterStatus value) threshold value t v := by
  have hparse : (Path.parse "n").toOption = some ⟨[.key "n"]⟩ := by decide
  exact ⟨rfl, rfl, ⟨_, hparse, rfl⟩, ht, hv⟩

/-- The least integer of 54 bits. -/
def boundary : Number := .natural ⟨9007199254740992, by decide⟩

/-- The integer that is one greater. -/
def afterBoundary : Number := .natural ⟨9007199254740993, by decide⟩

/-- The integer that is three greater. -/
def beyondBoundary : Number := .natural ⟨9007199254740995, by decide⟩

/-- An integer of 54 bits is greater than one that is three below it. -/
theorem isSatisfied_statusGreaterThan_beyond :
    Compares (counterAbove boundary) (counterStatus beyondBoundary) boundary beyondBoundary
        9007199254740992 9007199254740995 ∧
      (counterAbove boundary).IsSatisfied (.workflow .empty (counterStatus beyondBoundary)) := by
  have hcompares : Compares (counterAbove boundary) (counterStatus beyondBoundary) boundary
      beyondBoundary 9007199254740992 9007199254740995 := compares_counter rfl rfl
  obtain ⟨-, -, -, -, -, hbits, -⟩ := isSatisfied_statusGreaterThan hcompares
  exact ⟨hcompares, hbits 1 (by decide) (by decide) (by decide)⟩

/-- What the first two of these integers are rounded to. -/
def boundaryDouble : Binary64 := ⟨false, 2 ^ 52, 1075, by decide⟩

/-- An integer of 54 bits is not found to be greater than the one before it. -/
theorem not_forall_isSatisfied_iff_lt :
    ¬ ∀ (ast : WorkflowAst) (status : ParseStatus) (a : Assertion) (threshold value : Number)
        (t v : Int), Compares a status threshold value t v →
          (a.IsSatisfied (.workflow ast status) ↔ t < v) := by
  intro hall
  have hcompares : Compares (counterAbove boundary) (counterStatus afterBoundary) boundary
      afterBoundary 9007199254740992 9007199254740993 := compares_counter rfl rfl
  have hsatisfied := (hall .empty _ _ _ _ _ _ hcompares).mpr (by decide)
  have hthreshold : boundary.toDouble? = some boundaryDouble := by decide +kernel
  have hvalue : afterBoundary.toDouble? = some boundaryDouble := by decide +kernel
  exact lt_irrefl _ ((hcompares.isSatisfied_iff_lt hthreshold hvalue).mp hsatisfied)

end WorkflowCheck

end Certification
