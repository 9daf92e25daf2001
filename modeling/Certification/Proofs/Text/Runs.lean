import Mathlib.Data.List.TakeWhile

/-!
# Runs of characters

A run of characters of one sort goes on until a character of another sort follows, or nothing does.
So the characters alone tell a run from what follows it.
-/

namespace Certification.Text

/-- The text does not start with a character of the sort. -/
def Stops (p : Char → Bool) (rest : List Char) : Prop := ∀ c ∈ rest.head?, p c = false

namespace Stops

variable {p : Char → Bool} {run run' rest rest' : List Char}

/-- Nothing follows. -/
theorem nil : Stops p [] := fun _ hc ↦ nomatch hc

/-- A character of another sort follows. -/
theorem cons {c : Char} (h : p c = false) (cs : List Char) : Stops p (c :: cs) := by
  intro d hd
  obtain rfl : c = d := Option.some.inj hd
  exact h

/-- What follows a run does not belong to it. -/
theorem takeWhile_append (h : Stops p rest) (hrun : ∀ c ∈ run, p c = true) :
    (run ++ rest).takeWhile p = run := by
  rw [List.takeWhile_append_of_pos hrun]
  cases rest with
  | nil => simp
  | cons c cs => rw [List.takeWhile_cons_of_neg (by simp [h c rfl]), List.append_nil]

/-- What follows a run is left when the run is dropped. -/
theorem dropWhile_append (h : Stops p rest) (hrun : ∀ c ∈ run, p c = true) :
    (run ++ rest).dropWhile p = rest := by
  rw [List.dropWhile_append_of_pos hrun]
  cases rest with
  | nil => rfl
  | cons c cs => rw [List.dropWhile_cons_of_neg (by simp [h c rfl])]

/-- A text is a run and what follows it in one way only. -/
theorem append_inj (h : Stops p rest) (h' : Stops p rest') (hrun : ∀ c ∈ run, p c = true)
    (hrun' : ∀ c ∈ run', p c = true) (heq : run ++ rest = run' ++ rest') :
    run = run' ∧ rest = rest' := by
  constructor
  · rw [← h.takeWhile_append hrun, heq, h'.takeWhile_append hrun']
  · rw [← h.dropWhile_append hrun, heq, h'.dropWhile_append hrun']

end Stops

end Certification.Text
