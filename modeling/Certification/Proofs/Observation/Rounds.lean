import Certification.Observation.Observe
import Certification.Proofs.Resolver.Trial
import Certification.Resolver.Scripted

/-!
# Rounds of an observation

What an observation has to do with the invocations that it reports on. `Resolver.settlements` is how
a number of invocations in a row would end, and `Observation.Accounts` says that an observation
reports exactly on invocations that ended in given ways. Each round keeps this, so a whole
observation accounts for the invocations up to the first one that throws.
-/

namespace Certification

/-- How an invocation ends. -/
abbrev Settlement := Answer (Except ResolverError Json)

namespace Settlement

/-- The output of an invocation that returned one. -/
def output? : Settlement → Option Json
  | .ok (.ok output) => some output
  | _ => none

/-- The error of an invocation that threw one. -/
def error? : Settlement → Option ResolverError
  | .ok (.error error) => some error
  | _ => none

/-- Whether an invocation threw an error. -/
def throws (s : Settlement) : Bool := (error? s).isSome

end Settlement

namespace Resolver

variable {σ : Type}

/-- How a number of invocations with the empty input end that are made in a row. -/
def settlements (r : Resolver σ) : Nat → σ → List Settlement
  | 0, _ => []
  | n + 1, state => (r.invoke emptyInput state).1 :: settlements r n (r.invoke emptyInput state).2

/-- The state after a number of invocations with the empty input that are made in a row. -/
def afterInvocations (r : Resolver σ) : Nat → σ → σ
  | 0, state => state
  | n + 1, state => afterInvocations r n (r.invoke emptyInput state).2

/-- There is one settlement for each invocation. -/
theorem length_settlements (r : Resolver σ) (n : Nat) (state : σ) :
    (r.settlements n state).length = n := by
  induction n generalizing state with
  | zero => rfl
  | succ n ih => rw [settlements, List.length_cons, ih]

end Resolver

namespace Observation

/-- The observation reports on invocations that ended in the given ways, only the last of which may
have thrown. -/
structure Accounts (o : Observation) (settled : List Settlement) : Prop where
  invocations : o.invocations = settled.length
  outputs : o.outputs = settled.filterMap Settlement.output?
  serializedOutputs : o.serializedOutputs = o.outputs.map Json.compact
  output : o.output = o.outputs.getLast?
  error : o.error = settled.getLast?.bind Settlement.error?
  threw : o.threw = o.error.isSome
  callable : o.callable = decide (0 < o.invocations)
  balance : o.invocations = o.outputs.length + if o.threw then 1 else 0

private theorem accounts_start (resolverName : String) (metadata : ResolverContract)
    (repetition : Repetition) (before : Option Json) :
    Accounts { start resolverName metadata repetition with stateBefore := before } [] := by
  constructor <;> rfl

/-- An output that is recorded while nothing was thrown adds one invocation to the report. -/
theorem Accounts.recordOutput {o : Observation} {settled : List Settlement}
    (h : o.Accounts settled) (hf : o.threw = false) (output : Json) :
    (o.recordOutput output).Accounts (settled ++ [.ok (.ok output)]) := by
  have he : o.error = none := by
    have hnone := h.threw.symm.trans hf
    simpa using hnone
  have hb := h.balance
  constructor
  · simp [Observation.recordOutput, h.invocations]
  · simp [Observation.recordOutput, h.outputs, Settlement.output?]
  · simp [Observation.recordOutput, h.serializedOutputs]
  · simp [Observation.recordOutput]
  · simp [Observation.recordOutput, he, Settlement.error?]
  · simp [Observation.recordOutput, he, hf]
  · simp [Observation.recordOutput]
  · simp only [hf, Bool.false_eq_true, ite_false, Nat.add_zero] at hb
    simp [Observation.recordOutput, hf, hb]

/-- An error that is recorded while nothing was thrown adds one invocation to the report. -/
theorem Accounts.recordError {o : Observation} {settled : List Settlement}
    (h : o.Accounts settled) (hf : o.threw = false) (error : ResolverError) :
    (o.recordError error).Accounts (settled ++ [.ok (.error error)]) := by
  have hb := h.balance
  constructor
  · simp [Observation.recordError, h.invocations]
  · simp [Observation.recordError, h.outputs, Settlement.output?]
  · exact h.serializedOutputs
  · exact h.output
  · simp [Observation.recordError, Settlement.error?]
  · rfl
  · simp [Observation.recordError]
  · simp only [hf, Bool.false_eq_true, ite_false, Nat.add_zero] at hb
    simp [Observation.recordError, hb]

end Observation

namespace Resolver

variable {σ : Type}

/-- The settlements that rounds get to: those up to the first one that throws. -/
def settledUntilThrow (r : Resolver σ) (n : Nat) (state : σ) : List Settlement :=
  (r.settlements n state).take ((r.settlements n state).findIdx Settlement.throws + 1)

/-- Rounds without a panic end with an observation that accounts for what came before and for the
invocations up to the first one that throws. They make no other calls, and leave the fingerprint
that was taken before as it is. -/
theorem invokeRounds_accounts (r : Resolver σ) (n : Nat) (o : Observation) (state : σ)
    (past : List Settlement) (h : o.Accounts past) (hf : o.threw = false)
    (hcalm : (r.invokeRounds n o state).Calm) :
    ∃ o', r.invokeRounds n o state =
        ⟨.ok o', r.afterInvocations (r.settledUntilThrow n state).length state,
          List.replicate (r.settledUntilThrow n state).length ⟨.invoke emptyInput, false⟩⟩ ∧
      o'.Accounts (past ++ r.settledUntilThrow n state) ∧ o'.stateBefore = o.stateBefore := by
  induction n generalizing o state past with
  | zero => exact ⟨o, rfl, by simpa [settledUntilThrow, settlements] using h, rfl⟩
  | succ n ih =>
    unfold invokeRounds at hcalm ⊢
    obtain ⟨settled, hs, hask⟩ := tryInvoke_of_calm (Trial.calm_of_calm_bind hcalm)
    have hrest := Trial.calm_after_of_calm_bind hask hcalm
    rw [Trial.bind_apply_of_eq _ hask]
    cases settled with
    | ok output =>
      have huntil : r.settledUntilThrow (n + 1) state =
          .ok (.ok output) :: r.settledUntilThrow n (r.invoke emptyInput state).2 := by
        simp [settledUntilThrow, settlements, hs, List.findIdx_cons, Settlement.throws,
          Settlement.error?]
      obtain ⟨o', ho, hacc, hbefore⟩ :=
        ih (o.recordOutput output) (r.invoke emptyInput state).2 (past ++ [.ok (.ok output)])
          (h.recordOutput hf output) hf hrest
      refine ⟨o', ?_, ?_, hbefore⟩
      · rw [huntil, List.length_cons, List.replicate_succ, afterInvocations]
        simp only [ho]
        rfl
      · rw [huntil]
        simpa using hacc
    | error error =>
      have huntil : r.settledUntilThrow (n + 1) state = [.ok (.error error)] := by
        simp [settledUntilThrow, settlements, hs, List.findIdx_cons, Settlement.throws,
          Settlement.error?]
      refine ⟨o.recordError error, ?_, ?_, rfl⟩
      · rw [huntil]
        rfl
      · rw [huntil]
        exact h.recordError hf error

/-- An observation without a panic takes a fingerprint, makes the rounds, and takes another
fingerprint. -/
theorem observeWith_accounts (r : Resolver σ) (repetition : Repetition)
    (metadata : ResolverContract) (state : σ)
    (hcalm : (r.observeWith repetition metadata state).Calm) :
    let started := (r.fingerprint state).2
    let k := (r.settledUntilThrow repetition.count started).length
    ∃ o, (r.observeWith repetition metadata state).answer = .ok o ∧
      (r.observeWith repetition metadata state).events =
        ⟨.fingerprint, false⟩ :: List.replicate k ⟨.invoke emptyInput, false⟩ ++
          [⟨.fingerprint, false⟩] ∧
      o.Accounts (r.settledUntilThrow repetition.count started) ∧
      (r.fingerprint state).1 = .ok o.stateBefore ∧
      (r.fingerprint (r.afterInvocations k started)).1 = .ok o.stateAfter := by
  intro started k
  unfold observeWith at hcalm ⊢
  obtain ⟨before, hb, hbefore⟩ := tryFingerprint_of_calm (Trial.calm_of_calm_bind hcalm)
  have hrest := Trial.calm_after_of_calm_bind hbefore hcalm
  obtain ⟨o, hrounds, hacc, hkept⟩ := r.invokeRounds_accounts repetition.count _ started []
    (Observation.accounts_start r.name metadata repetition before) rfl
    (Trial.calm_of_calm_bind hrest)
  have hlast := Trial.calm_after_of_calm_bind hrounds hrest
  obtain ⟨after, ha, hafter⟩ := tryFingerprint_of_calm (Trial.calm_of_calm_bind hlast)
  rw [Trial.bind_apply_of_eq _ hbefore, Trial.bind_apply_of_eq _ hrounds,
    Trial.bind_apply_of_eq _ hafter]
  refine ⟨{ o with stateAfter := after }, rfl, rfl, ?_, ?_, ha⟩
  · rw [List.nil_append] at hacc
    exact ⟨hacc.1, hacc.2, hacc.3, hacc.4, hacc.5, hacc.6, hacc.7, hacc.8⟩
  · exact hb.trans (congrArg Except.ok hkept.symm)

/-- Rounds get to the first settlement that throws, or to the end. -/
theorem length_settledUntilThrow (r : Resolver σ) (n : Nat) (state : σ) :
    (r.settledUntilThrow n state).length =
      min n ((r.settlements n state).findIdx Settlement.throws + 1) := by
  rw [settledUntilThrow, List.length_take, length_settlements, Nat.min_comm]

private theorem getLast?_settledUntilThrow (r : Resolver σ) (n : Nat) (state : σ) :
    (r.settledUntilThrow n state).getLast? =
      (r.settlements n state)[(r.settledUntilThrow n state).length - 1]? := by
  rw [List.getLast?_eq_getElem?]
  cases n with
  | zero => rfl
  | succ n =>
    have hlt : (r.settledUntilThrow (n + 1) state).length - 1 <
        (r.settlements (n + 1) state).findIdx Settlement.throws + 1 := by
      rw [length_settledUntilThrow]
      omega
    exact List.getElem?_take_of_lt hlt

/-- The settlements that rounds get to are the first ones. -/
theorem take_settlements (r : Resolver σ) (n : Nat) (state : σ) :
    (r.settlements n state).take (r.settledUntilThrow n state).length =
      r.settledUntilThrow n state :=
  (List.prefix_iff_eq_take.mp (List.take_prefix _ _)).symm

private theorem getLast?_bind_error?_of_lt (r : Resolver σ) (n : Nat) (state : σ)
    (h : (r.settledUntilThrow n state).length < n) :
    ((r.settledUntilThrow n state).getLast?.bind Settlement.error?).isSome = true := by
  have hlen := r.length_settledUntilThrow n state
  have hi : (r.settlements n state).findIdx Settlement.throws < (r.settlements n state).length := by
    rw [length_settlements]
    omega
  have hk : (r.settledUntilThrow n state).length - 1 =
      (r.settlements n state).findIdx Settlement.throws := by
    omega
  rw [getLast?_settledUntilThrow, hk, List.getElem?_eq_getElem hi]
  exact List.findIdx_getElem (w := hi)

end Resolver

/-- An invocation threw an error exactly when it ended with it. -/
theorem Settlement.error?_eq_some_iff {s : Settlement} {error : ResolverError} :
    s.error? = some error ↔ s = .ok (.error error) := by
  unfold error?
  split
  · simp
  · next h =>
    constructor
    · intro hn
      cases hn
    · intro hs
      exact absurd hs (h error)

namespace Resolver

variable {σ : Type}

/-- The books of an observation in which no call panics. It invokes the resolver with the empty
object as often as asked or until the first error, between the only two fingerprints. It keeps the
outputs in order with their texts and the last of them, the error of the last invocation if that
threw, and how many invocations there were. -/
theorem observeWith_consistent (r : Resolver σ) (repetition : Repetition)
    (metadata : ResolverContract) (state : σ)
    (hcalm : ∀ e ∈ (r.observeWith repetition metadata state).events, e.panicked = false) :
    let started := (r.fingerprint state).2
    let settled := r.settlements repetition.count started
    ∃ o, (r.observeWith repetition metadata state).answer = .ok o ∧
      (r.observeWith repetition metadata state).events =
        ⟨.fingerprint, false⟩ :: List.replicate o.invocations ⟨.invoke (.object []), false⟩ ++
          [⟨.fingerprint, false⟩] ∧
      o.invocations = min repetition.count (settled.findIdx Settlement.throws + 1) ∧
      o.outputs = (settled.take o.invocations).filterMap Settlement.output? ∧
      o.serializedOutputs = o.outputs.map Json.compact ∧
      o.output = o.outputs.getLast? ∧
      (o.output = none ↔ o.outputs = []) ∧
      (∀ error, o.error = some error ↔
        0 < o.invocations ∧ settled[o.invocations - 1]? = some (.ok (.error error))) ∧
      (o.threw = true ↔ o.error.isSome = true) ∧
      o.invocations = o.outputs.length + (if o.threw then 1 else 0) ∧
      (o.invocations < repetition.count → o.threw = true) ∧
      (o.callable = true ↔ 1 ≤ o.invocations) ∧
      (r.fingerprint state).1 = .ok o.stateBefore ∧
      (r.fingerprint (r.afterInvocations o.invocations started)).1 = .ok o.stateAfter := by
  intro started settled
  obtain ⟨o, hanswer, hevents, hacc, hbefore, hafter⟩ :=
    r.observeWith_accounts repetition metadata state hcalm
  have hk : (r.settledUntilThrow repetition.count started).length = o.invocations :=
    hacc.invocations.symm
  have hmin := r.length_settledUntilThrow repetition.count started
  have hlast := hacc.error
  rw [getLast?_settledUntilThrow, hk] at hlast
  rw [hk] at hevents hafter hmin
  refine ⟨o, hanswer, hevents, hmin, ?_, hacc.serializedOutputs, hacc.output, ?_, ?_, ?_,
    hacc.balance, ?_, ?_, hbefore, hafter⟩
  · rw [hacc.outputs, ← hk, take_settlements]
  · rw [hacc.output, List.getLast?_eq_none_iff]
  · intro error
    rw [hlast, Option.bind_eq_some_iff]
    constructor
    · rintro ⟨s, hs, he⟩
      obtain ⟨hi, -⟩ := List.getElem?_eq_some_iff.mp hs
      rw [length_settlements] at hi
      exact ⟨by omega, hs.trans (congrArg some (Settlement.error?_eq_some_iff.mp he))⟩
    · rintro ⟨-, hs⟩
      exact ⟨_, hs, rfl⟩
  · rw [hacc.threw]
  · intro hlt
    rw [hacc.threw, hacc.error]
    exact r.getLast?_bind_error?_of_lt _ _ (hk ▸ hlt)
  · rw [hacc.callable, decide_eq_true_iff]
    exact Iff.rfl

/-- A script that returns an output once and throws from then on, and whose fingerprint changes. -/
def tiring : Script where
  name := "tiring"
  replies := [.returns (.bool true), .throws (.ofMessage "tired")]
  declaration := none
  description := none
  fingerprints := some [some .null, none]
  parser := none

/-- An observation that asks for three invocations of the script ends with the second one. -/
theorem observeWith_tiring :
    (∀ e ∈ (tiring.resolver.observeWith (.repeated 3) ⟨.null⟩ Script.start).events,
      e.panicked = false) ∧
    ∃ o, (tiring.resolver.observeWith (.repeated 3) ⟨.null⟩ Script.start).answer = .ok o ∧
      o.invocations = 2 ∧ o.outputs = [.bool true] ∧ o.error = some (.ofMessage "tired") ∧
      o.stateBefore = some .null ∧ o.stateAfter = none := by
  have hcalm : ∀ e ∈ (tiring.resolver.observeWith (.repeated 3) ⟨.null⟩ Script.start).events,
      e.panicked = false := by decide
  refine ⟨hcalm, ?_⟩
  obtain ⟨o, hanswer, -, hk, houtputs, -, -, -, herror, -, -, -, -, hbefore, hafter⟩ :=
    observeWith_consistent tiring.resolver (.repeated 3) ⟨.null⟩ Script.start hcalm
  have htwo : o.invocations = 2 := hk
  rw [htwo] at houtputs herror hafter
  refine ⟨o, hanswer, htwo, houtputs, ?_, ?_, ?_⟩
  · exact (herror _).mpr ⟨by decide, rfl⟩
  · exact (Except.ok.inj hbefore).symm
  · exact (Except.ok.inj hafter).symm

end Resolver

end Certification
