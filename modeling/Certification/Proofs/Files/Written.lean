import Certification.Proofs.Chain
import Certification.Proofs.Files.Replaced
import Certification.Proofs.Files.Stem

/-!
# Files that were written

A file that was written is read as it was written: writing puts it at the end of a walk through
directories, and what is put where no directory stands does not change such a walk.
-/

namespace Certification

namespace Disk

variable {d : Disk}

section Walk

variable {spot : Place} (hfree : d.node? spot ≠ some .directory) (node : Node)

include hfree

private theorem enter_put {place next : Place} {name : String} (h : d.enter place name = .ok next) :
    (d.put spot node).enter place name = .ok next := by
  have hdirectory := (enter_cases h).1
  have hne : place ≠ spot := by
    rintro rfl
    exact hfree hdirectory
  rw [← h]
  unfold enter
  rw [node?_put_of_ne hne]
  rfl

private theorem walk_put {place last : Place} {steps : List String}
    (h : d.walk place steps = .ok last) : (d.put spot node).walk place steps = .ok last := by
  induction steps generalizing place with
  | nil => exact h
  | cons name rest ih =>
    obtain ⟨next, hnext, hrest⟩ := bind_eq_ok_iff.mp h
    exact bind_eq_ok_iff.mpr ⟨next, enter_put hfree node hnext, ih hrest⟩

end Walk

private theorem walk_append (place : Place) (earlier later : List String) :
    d.walk place (earlier ++ later) =
      d.walk place earlier >>= fun middle ↦ d.walk middle later := by
  induction earlier generalizing place with
  | nil => rfl
  | cons name rest ih =>
    rw [List.cons_append, walk, walk]
    cases d.enter place name with
    | error cause => rfl
    | ok next => exact ih next

/-- The target of a path is where the walk along it stops before its last name. -/
theorem walk_of_target {fault : FileError} {path name : String} {place : Place}
    (h : d.target fault path = .ok (place, name)) :
    validate path = .ok () ∧ d.walk (d.start path).1 (d.start path).2 = d.enter place name := by
  obtain ⟨_, hvalid, h⟩ := bind_eq_ok_iff.mp h
  refine ⟨hvalid, ?_⟩
  dsimp only at h
  split at h
  · cases h
  · next last hlast =>
    obtain ⟨reached, hwalk, h⟩ := bind_eq_ok_iff.mp h
    obtain ⟨rfl, rfl⟩ : reached = place ∧ last = name := by
      split at h <;> cases h
      exact ⟨rfl, rfl⟩
    obtain ⟨before, hnames⟩ := List.getLast?_eq_some_iff.mp hlast
    rw [hnames, List.dropLast_concat] at hwalk
    rw [hnames, walk_append, hwalk]
    change (do let next ← d.enter reached last; d.walk next []) = _
    cases d.enter reached last <;> rfl

/-- Writing a file puts it at the end of the walk along its path, where no directory stands. -/
theorem exists_put_of_write {path : String} {content : List UInt8} {written : Disk}
    (h : d.write path content = .ok written) :
    ∃ place, written = d.put place (.file content) ∧
      validate path = .ok () ∧ Location.endsWithSlash path = false ∧
      d.walk (d.start path).1 (d.start path).2 = .ok place ∧
      d.node? place ≠ some .directory := by
  obtain ⟨⟨above, name⟩, htarget, h⟩ := bind_eq_ok_iff.mp h
  obtain ⟨hvalid, hwalk⟩ := walk_of_target htarget
  dsimp only at h
  split at h
  · cases h
  next hplain =>
  obtain ⟨place, hplace, h⟩ := bind_eq_ok_iff.mp h
  split at h
  · cases h
  next hfree =>
  exact ⟨place, (Except.ok.inj h).symm, hvalid, by simpa using fun hs ↦ hplain (.inl hs),
    hwalk.trans hplace, hfree⟩

/-- A file that was written is read as it was written. -/
theorem read_of_write {path : String} {content : List UInt8} {written : Disk}
    (h : d.write path content = .ok written) : written.read path = .ok content := by
  obtain ⟨place, rfl, hvalid, hslash, hwalk, hfree⟩ := exists_put_of_write h
  have hhere : d.holdsHere place = false :=
    Bool.eq_false_iff.mpr fun hhere ↦ hfree (node?_of_holdsHere hhere)
  have hfind : (d.put place (.file content)).find path = .ok (place, .file content) := by
    unfold find
    refine bind_eq_ok_iff.mpr ⟨(), hvalid, ?_⟩
    refine bind_eq_ok_iff.mpr ⟨place, walk_put hfree _ hwalk, ?_⟩
    rw [node?_put_self hhere]
    simp [hslash, pure, Except.pure]
  unfold read
  rw [hfind]
  rfl

end Disk

end Certification
