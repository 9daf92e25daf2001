import Certification.Proofs.Observation.Rounds

/-!
# The error that ends an observation

The invocations that an observation accounts for all returned an output, but for the last one if
that threw an error. So the outputs and the error of an observation determine how its invocations
ended, and its error is the first one that the resolver throws.
-/

namespace Certification

namespace Settlement

/-- The end of an invocation that returned an output. -/
def returned (output : Json) : Settlement := .ok (.ok output)

/-- The end of an invocation that threw an error. -/
def thrown (error : ResolverError) : Settlement := .ok (.error error)

private theorem output?_eq_some_iff {s : Settlement} {output : Json} :
    s.output? = some output ↔ s = returned output := by
  unfold output?
  split
  · simp [returned]
  · next h =>
    constructor
    · intro hn
      cases hn
    · intro hs
      exact absurd hs (h output)

/-- When there are as many outputs as invocations, every invocation returned one. -/
theorem eq_map_returned {settled : List Settlement}
    (h : (settled.filterMap output?).length = settled.length) :
    settled = (settled.filterMap output?).map returned := by
  induction settled with
  | nil => rfl
  | cons s rest ih =>
    have hrest : (rest.filterMap output?).length ≤ rest.length := List.length_filterMap_le _ _
    cases hs : s.output? with
    | none =>
      rw [List.filterMap_cons_none hs, List.length_cons] at h
      omega
    | some output =>
      rw [List.filterMap_cons_some hs, List.length_cons, List.length_cons, Nat.add_right_cancel_iff]
        at h
      rw [List.filterMap_cons_some hs, List.map_cons, ← ih h, output?_eq_some_iff.mp hs]

private theorem findSome?_map_returned (outputs : List Json) :
    (outputs.map returned).findSome? error? = none := by
  rw [List.findSome?_eq_none_iff]
  intro s hs
  obtain ⟨output, -, rfl⟩ := List.mem_map.mp hs
  rfl

private theorem findSome?_take_findIdx (settled : List Settlement) :
    (settled.take (settled.findIdx throws + 1)).findSome? error? = settled.findSome? error? := by
  induction settled with
  | nil => rfl
  | cons s rest ih =>
    rw [List.findIdx_cons, List.findSome?_cons]
    cases hs : s.error? with
    | some error => simp [throws, hs]
    | none => simpa [throws, hs] using ih

end Settlement

namespace Observation.Accounts

variable {o : Observation} {settled : List Settlement}

/-- The invocations returned the outputs, one after the other, and then threw the error if there is
one. -/
theorem settled_eq (h : o.Accounts settled) :
    settled = o.outputs.map Settlement.returned ++ o.error.toList.map Settlement.thrown := by
  have hbalance := h.balance
  rw [h.threw, h.invocations, h.outputs] at hbalance
  cases he : o.error with
  | none =>
    rw [he] at hbalance
    have hall : settled = (settled.filterMap Settlement.output?).map Settlement.returned :=
      Settlement.eq_map_returned (by simpa using hbalance.symm)
    rw [h.outputs]
    simpa using hall
  | some error =>
    -- The last invocation is the one that threw, and is not counted among the outputs.
    obtain ⟨last, hlast, hthrew⟩ := Option.bind_eq_some_iff.mp (h.error.symm.trans he)
    obtain ⟨earlier, rfl⟩ := List.getLast?_eq_some_iff.mp hlast
    obtain rfl := Settlement.error?_eq_some_iff.mp hthrew
    rw [he] at hbalance
    have houtputs : o.outputs = earlier.filterMap Settlement.output? := by
      rw [h.outputs, List.filterMap_append]
      simp [Settlement.output?]
    have hlength : (earlier.filterMap Settlement.output?).length = earlier.length := by
      rw [← h.outputs, houtputs] at hbalance
      simpa using hbalance.symm
    rw [houtputs, ← Settlement.eq_map_returned hlength]
    rfl

private theorem findSome?_error? (h : o.Accounts settled) :
    settled.findSome? Settlement.error? = o.error := by
  rw [h.settled_eq, List.findSome?_append, Settlement.findSome?_map_returned]
  cases o.error <;> rfl

end Observation.Accounts

namespace Resolver

variable {σ : Type}

/-- The first error that the resolver throws when it is invoked a number of times. -/
def firstThrown? (r : Resolver σ) (n : Nat) (state : σ) : Option ResolverError :=
  (r.settlements n state).findSome? Settlement.error?

/-- An observation has the first error that the resolver throws. -/
theorem error_eq_firstThrown? {r : Resolver σ} {n : Nat} {state : σ} {o : Observation}
    (h : o.Accounts (r.settledUntilThrow n state)) : o.error = r.firstThrown? n state := by
  rw [← h.findSome?_error?]
  exact Settlement.findSome?_take_findIdx _

end Resolver

end Certification
