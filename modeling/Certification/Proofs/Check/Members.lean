import Certification.Proofs.Assertion.Satisfied
import Certification.Proofs.Check.Workflow
import Mathlib.Data.Finset.Card
import Mathlib.Data.List.Perm.Subperm

/-!
# Lists with the expected members

When a list of declared names passes for an expected one. The check compares the lengths and looks
for every expected name among the declared ones; it does not look the other way. So a list that
passes has the expected members as long as no name is expected twice, and each repetition among the
expected names leaves room for one declared name that nobody expects.
-/

namespace Certification

namespace WorkflowCheck

section Lists

variable {actual expected : List String}

/-- A list passes for an expected one when it is as long and lacks no expected member. -/
theorem sameMembers_eq_true_iff :
    sameMembers actual expected = true ↔ actual.length = expected.length ∧ expected ⊆ actual := by
  simp [sameMembers, List.subset_def]

private theorem card_unexpected_add_card (h : sameMembers actual expected = true) :
    (actual.toFinset \ expected.toFinset).card + expected.toFinset.card =
      actual.toFinset.card := by
  refine Finset.card_sdiff_add_card_eq_card fun name hname ↦ ?_
  exact List.mem_toFinset.mpr ((sameMembers_eq_true_iff.mp h).2 (List.mem_toFinset.mp hname))

private theorem card_unexpected_add_card_le (h : sameMembers actual expected = true) :
    (actual.toFinset \ expected.toFinset).card + expected.toFinset.card ≤ expected.length :=
  calc (actual.toFinset \ expected.toFinset).card + expected.toFinset.card
      = actual.toFinset.card := card_unexpected_add_card h
    _ ≤ actual.length := actual.toFinset_card_le
    _ = expected.length := (sameMembers_eq_true_iff.mp h).1

/-- A list that passes has the expected members and no others exactly when it has no more different
members than are expected. -/
theorem forall_mem_iff_iff_card_eq (h : sameMembers actual expected = true) :
    (∀ name, name ∈ actual ↔ name ∈ expected) ↔
      actual.toFinset.card = expected.toFinset.card := by
  have hcard := card_unexpected_add_card h
  constructor
  · intro hmem
    have hsame : actual.toFinset = expected.toFinset := by
      ext name
      rw [List.mem_toFinset, List.mem_toFinset, hmem name]
    rw [hsame]
  · intro hsame name
    have hnone : actual.toFinset \ expected.toFinset = ∅ := Finset.card_eq_zero.mp (by omega)
    have hunexpected := Finset.sdiff_eq_empty_iff_subset.mp hnone
    constructor
    · intro hname
      exact List.mem_toFinset.mp (hunexpected (List.mem_toFinset.mpr hname))
    · exact fun hname ↦ (sameMembers_eq_true_iff.mp h).2 hname

private theorem perm_of_sameMembers (h : sameMembers actual expected = true) (hn : expected.Nodup) :
    actual.Perm expected := by
  obtain ⟨hlength, hsubset⟩ := sameMembers_eq_true_iff.mp h
  exact ((hn.subperm hsubset).perm_of_length_le hlength.le).symm

private theorem sameMembers_eq_true_iff_perm (hn : expected.Nodup) :
    sameMembers actual expected = true ↔ actual.Perm expected := by
  constructor
  · exact fun h ↦ perm_of_sameMembers h hn
  · exact fun h ↦ sameMembers_eq_true_iff.mpr ⟨h.length_eq, h.symm.subset⟩

private theorem perm_iff_nodup_and_forall_mem (hn : expected.Nodup) :
    actual.Perm expected ↔ actual.Nodup ∧ ∀ name, name ∈ actual ↔ name ∈ expected := by
  constructor
  · intro h
    exact ⟨h.nodup_iff.mpr hn, fun _ ↦ h.mem_iff⟩
  · rintro ⟨hactual, hmem⟩
    exact (List.perm_ext_iff_of_nodup hactual hn).mpr hmem

end Lists

/-- The declared names that a kind compares with the expected ones. -/
def declared? (ast : WorkflowAst) : AssertionKind → Option (List String)
  | .allowedResolversListed => some ast.allowedResolvers
  | .workflowReturnValues | .workflowReturnValuesEmpty => some ast.returnValues
  | _ => none

section Satisfied

variable {ast : WorkflowAst} {status : ParseStatus} {a : Assertion} {kind : AssertionKind}
  {declared : List String}

private theorem isSatisfied_iff_sameMembers (hkind : declared? ast kind = some declared)
    (ha : a.kind = kind.name) :
    a.IsSatisfied (.workflow ast status) ↔
      ∃ expected, a.expected.bind Json.strings? = some expected ∧
        sameMembers declared expected = true := by
  cases kind <;> cases hkind <;> rw [Assertion.isSatisfied_iff_check ha rfl]
  · exact allowedResolversListed_eq_true_iff
  · exact workflowReturnValues_eq_true_iff
  · exact workflowReturnValues_eq_true_iff

/-- An assertion that compares names is satisfied exactly when there are as many declared names as
expected ones and no expected one is missing. Then the declared names are the expected ones, each of
them once, if none is expected twice. Otherwise there are at most as many unexpected names as there
are repetitions among the expected ones, and the members are the same exactly when the numbers of
different names are. -/
theorem isSatisfied_compared (hkind : declared? ast kind = some declared)
    (ha : a.kind = kind.name) :
    (a.IsSatisfied (.workflow ast status) ↔
      ∃ expected, a.expected.bind Json.strings? = some expected ∧
        declared.length = expected.length ∧ expected ⊆ declared) ∧
    ∀ expected, a.expected.bind Json.strings? = some expected →
      a.IsSatisfied (.workflow ast status) →
        (expected.Nodup → declared.Perm expected) ∧
        (declared.toFinset \ expected.toFinset).card + expected.toFinset.card ≤ expected.length ∧
        ((∀ name, name ∈ declared ↔ name ∈ expected) ↔
          declared.toFinset.card = expected.toFinset.card) := by
  have hsatisfied : a.IsSatisfied (.workflow ast status) ↔ _ :=
    isSatisfied_iff_sameMembers hkind ha
  refine ⟨?_, ?_⟩
  · simpa only [sameMembers_eq_true_iff] using hsatisfied
  · intro expected hexpected h
    obtain ⟨stated, hstated, hsame⟩ := hsatisfied.mp h
    obtain rfl : expected = stated := Option.some.inj (hexpected.symm.trans hstated)
    exact ⟨perm_of_sameMembers hsame, card_unexpected_add_card_le hsame,
      forall_mem_iff_iff_card_eq hsame⟩

/-- A workflow that allows two resolvers. -/
def twoResolvers : WorkflowAst := { WorkflowAst.empty with allowedResolvers := ["add", "mul"] }

/-- An assertion about the allowed resolvers, with the expected names. -/
def allowlist (expected : List String) : Assertion :=
  { Assertion.new "allowlist" "allowed_resolvers_listed" with
    expected := some (.ofStrings expected) }

/-- The resolvers of `twoResolvers` are the expected ones in another order. -/
theorem isSatisfied_compared_twoResolvers :
    declared? twoResolvers .allowedResolversListed = some ["add", "mul"] ∧
      (allowlist ["mul", "add"]).IsSatisfied (.workflow twoResolvers ⟨[], []⟩) ∧
      ["add", "mul"].Perm ["mul", "add"] := by
  have hall := @isSatisfied_compared twoResolvers ⟨[], []⟩ (allowlist ["mul", "add"])
    .allowedResolversListed ["add", "mul"] rfl (by decide)
  have hsatisfied := hall.1.mpr ⟨["mul", "add"], rfl, rfl, by decide⟩
  exact ⟨rfl, hsatisfied, (hall.2 _ rfl hsatisfied).1 (by decide)⟩

/-- A name that is expected twice lets a resolver pass that nobody expects. -/
theorem not_forall_mem_iff_of_isSatisfied :
    ¬ ∀ (ast : WorkflowAst) (status : ParseStatus) (a : Assertion) (kind : AssertionKind)
        (declared expected : List String),
      declared? ast kind = some declared → a.kind = kind.name →
        a.expected.bind Json.strings? = some expected →
          a.IsSatisfied (.workflow ast status) → ∀ name, name ∈ declared ↔ name ∈ expected := by
  intro h
  have hsatisfied : (allowlist ["add", "add"]).IsSatisfied (.workflow twoResolvers ⟨[], []⟩) :=
    ⟨.allowedResolversListed, by decide, by decide⟩
  have hmul := h twoResolvers ⟨[], []⟩ (allowlist ["add", "add"]) .allowedResolversListed
    ["add", "mul"] ["add", "add"] rfl (by decide) rfl hsatisfied "mul"
  exact absurd hmul (by decide)

private theorem isSatisfied_iff_of_expected (hkind : declared? ast kind = some declared)
    (ha : a.kind = kind.name) {expected : List String}
    (hexpected : a.expected.bind Json.strings? = some expected) :
    a.IsSatisfied (.workflow ast status) ↔ sameMembers declared expected = true := by
  rw [isSatisfied_iff_sameMembers hkind ha]
  constructor
  · rintro ⟨stated, hstated, hsame⟩
    obtain rfl : expected = stated := Option.some.inj (hexpected.symm.trans hstated)
    exact hsame
  · exact fun hsame ↦ ⟨expected, hexpected, hsame⟩

/-- When no name is expected twice, an assertion that compares names is satisfied exactly when the
declared names are an arrangement of the expected ones: none is missing, none is there besides, and
none is declared twice. So nothing changes when either list is put into another order. -/
theorem isSatisfied_iff_perm (hkind : declared? ast kind = some declared) (ha : a.kind = kind.name)
    {expected : List String} (hexpected : a.expected.bind Json.strings? = some expected)
    (hn : expected.Nodup) :
    (a.IsSatisfied (.workflow ast status) ↔ declared.Perm expected) ∧
    (a.IsSatisfied (.workflow ast status) ↔
      declared.Nodup ∧ ∀ name, name ∈ declared ↔ name ∈ expected) ∧
    ∀ (ast' : WorkflowAst) (status' : ParseStatus) (a' : Assertion)
        (declared' expected' : List String),
      declared? ast' kind = some declared' → declared'.Perm declared →
        a'.kind = kind.name → a'.expected.bind Json.strings? = some expected' →
          expected'.Perm expected →
            (a'.IsSatisfied (.workflow ast' status') ↔ a.IsSatisfied (.workflow ast status)) := by
  have hperm : a.IsSatisfied (.workflow ast status) ↔ declared.Perm expected :=
    (isSatisfied_iff_of_expected hkind ha hexpected).trans (sameMembers_eq_true_iff_perm hn)
  refine ⟨hperm, hperm.trans (perm_iff_nodup_and_forall_mem hn), ?_⟩
  intro ast' status' a' declared' expected' hkind' hdeclared ha' hexpected' hstated
  have hn' : expected'.Nodup := hstated.nodup_iff.mpr hn
  have hperm' : a'.IsSatisfied (.workflow ast' status') ↔ declared'.Perm expected' :=
    (isSatisfied_iff_of_expected hkind' ha' hexpected').trans (sameMembers_eq_true_iff_perm hn')
  rw [hperm, hperm', hdeclared.congr_left, hstated.congr_right]

/-- The order of two expected names is free, and a workflow that declares one of them twice
fails. -/
theorem isSatisfied_iff_perm_twoResolvers :
    ["mul", "add"].Nodup ∧
      (allowlist ["mul", "add"]).IsSatisfied (.workflow twoResolvers ⟨[], []⟩) ∧
      (allowlist ["add", "mul"]).IsSatisfied (.workflow twoResolvers ⟨[], []⟩) ∧
      ¬ (allowlist ["mul", "add"]).IsSatisfied
        (.workflow { twoResolvers with allowedResolvers := ["add", "add"] } ⟨[], []⟩) := by
  have hn : ["mul", "add"].Nodup := by decide
  have hall := @isSatisfied_iff_perm twoResolvers ⟨[], []⟩ (allowlist ["mul", "add"])
    .allowedResolversListed ["add", "mul"] rfl (by decide) ["mul", "add"] rfl hn
  have hsatisfied := hall.1.mpr (by decide)
  have hrepeated := @isSatisfied_iff_perm { twoResolvers with allowedResolvers := ["add", "add"] }
    ⟨[], []⟩ (allowlist ["mul", "add"]) .allowedResolversListed ["add", "add"] rfl (by decide)
    ["mul", "add"] rfl hn
  refine ⟨hn, hsatisfied, ?_, ?_⟩
  · exact (hall.2.2 twoResolvers ⟨[], []⟩ (allowlist ["add", "mul"]) ["add", "mul"]
      ["add", "mul"] rfl (by decide) (by decide) rfl (by decide)).mpr hsatisfied
  · intro h
    exact absurd (hrepeated.1.mp h) (by decide)

end Satisfied

end WorkflowCheck

end Certification
