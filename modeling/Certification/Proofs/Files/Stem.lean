import Certification.Files.Disk
import Certification.Proofs.Chain
import Mathlib.Logic.Function.Iterate

/-!
# Files have names

A path that leads to a file ends in a name: a walk that ends with a mark of the current or the
parent directory ends in a directory, since everything above a place that was walked to is one. So
the path of a file has a stem.
-/

namespace Certification

namespace Location

private theorem getLast?_steps {path last : String} (h : (names path).getLast? = some last)
    (hne : last ≠ ".") : (steps path).getLast? = some last := by
  obtain ⟨before, hnames⟩ := List.getLast?_eq_some_iff.mp h
  unfold steps
  rw [hnames]
  cases before with
  | nil => simp [hne]
  | cons first rest =>
    simp only [List.cons_append, List.filter_append]
    split
    · simp [hne]
    · simp [hne, List.getLast?_cons]

end Location

namespace Disk

variable {d : Disk}

/-- A step from a place starts in a directory, and stays, goes up or goes down. -/
theorem enter_cases {place next : Place} {name : String} (h : d.enter place name = .ok next) :
    d.node? place = some .directory ∧
      (name = "." ∧ next = place ∨ name = ".." ∧ next = d.up place ∨
        (name ≠ "." ∧ name ≠ "..") ∧ next = d.down name place) := by
  unfold enter at h
  split at h
  · cases h
  · cases h
  next hnode =>
  refine ⟨hnode, ?_⟩
  split at h
  · cases h
  cases h
  unfold Disk.next
  split
  · next hname => exact .inl ⟨hname, rfl⟩
  split
  · next hname => exact .inr (.inl ⟨hname, rfl⟩)
  · next hdot hdots => exact .inr (.inr ⟨⟨hdot, hdots⟩, rfl⟩)

private theorem up_concat (names : List String) (name : String) :
    d.up (.inside (names ++ [name])) = .inside names := by
  cases names with
  | nil => rfl
  | cons first rest => exact congrArg Place.inside List.dropLast_concat

private theorem up_down (name : String) (place : Place) : d.up (d.down name place) = place := by
  cases place with
  | inside names => exact up_concat names name
  | beyond names =>
    by_cases hhere : names ++ [name] = d.hereNames
    · have hne : d.hereNames ≠ [] := by simp [← hhere]
      rw [down, if_pos hhere, up, if_neg hne, ← hhere, List.dropLast_concat]
    · rw [down, if_neg hhere, up, List.dropLast_concat]

/-- Everything above the place is a directory. -/
def IsGrounded (d : Disk) (place : Place) : Prop :=
  ∀ n, d.node? (d.up^[n + 1] place) = some .directory

/-- Every step leads to a place below directories. -/
theorem IsGrounded.enter {place next : Place} {name : String} (h : d.IsGrounded place)
    (hn : d.enter place name = .ok next) : d.IsGrounded next := by
  obtain ⟨hnode, ⟨-, rfl⟩ | ⟨-, rfl⟩ | ⟨-, rfl⟩⟩ := enter_cases hn
  · exact h
  · exact fun n ↦ h (n + 1)
  · intro n
    rw [Function.iterate_succ_apply, up_down]
    cases n with
    | zero => exact hnode
    | succ n => exact h n

private theorem holdsHere_up {place : Place} (h : d.holdsHere place = true) :
    d.holdsHere (d.up place) = true := by
  have habove {names : List String} (hn : names <+: d.hereNames) :
      d.holdsHere (.beyond names) = true := List.isPrefixOf_iff_prefix.mpr hn
  cases place with
  | inside names =>
    obtain rfl := List.isEmpty_iff.mp h
    rw [up]
    split
    · rfl
    · exact habove (List.dropLast_prefix _)
  | beyond names =>
    have hnames : names <+: d.hereNames := List.isPrefixOf_iff_prefix.mp h
    exact habove ((List.dropLast_prefix _).trans hnames)

private theorem isGrounded_of_holdsHere {place : Place} (h : d.holdsHere place = true) :
    d.IsGrounded place := by
  have hall (n : Nat) : d.holdsHere (d.up^[n] place) = true := by
    induction n with
    | zero => exact h
    | succ n ih =>
      rw [Function.iterate_succ_apply']
      exact holdsHere_up ih
  exact fun n ↦ node?_of_holdsHere (hall (n + 1))

/-- A walk from a directory to a file ends with a name. -/
theorem getLast?_of_walk {place last : Place} {names : List String} {content : List UInt8}
    (hd : d.node? place = some .directory) (h : d.IsGrounded place)
    (hwalk : d.walk place names = .ok last) (hlast : d.node? last = some (.file content)) :
    ∃ name, names.getLast? = some name ∧ name ≠ "." ∧ name ≠ ".." := by
  induction names generalizing place with
  | nil =>
    cases hwalk
    rw [hd] at hlast
    cases hlast
  | cons name rest ih =>
    rw [walk] at hwalk
    cases hn : d.enter place name with
    | error cause =>
      rw [hn] at hwalk
      cases hwalk
    | ok next =>
      rw [hn] at hwalk
      change d.walk next rest = .ok last at hwalk
      cases rest with
      | nil =>
        cases hwalk
        obtain ⟨-, ⟨-, rfl⟩ | ⟨-, rfl⟩ | ⟨hname, -⟩⟩ := enter_cases hn
        · rw [hd] at hlast
          cases hlast
        · have hup : d.node? (d.up place) = some .directory := h 0
          rw [hup] at hlast
          cases hlast
        · exact ⟨name, rfl, hname⟩
      | cons second more =>
        have hnext : d.node? next = some .directory := by
          rw [walk] at hwalk
          cases hs : d.enter next second with
          | error cause =>
            rw [hs] at hwalk
            cases hwalk
          | ok _ => exact (enter_cases hs).1
        obtain ⟨found, hfound, hname⟩ := ih hnext (h.enter hn) hwalk
        exact ⟨found, by rw [List.getLast?_cons_cons, hfound], hname⟩

private theorem holdsHere_start (d : Disk) (path : String) :
    d.holdsHere (d.start path).1 = true := by
  unfold start top
  dsimp only
  split
  · split <;> rfl
  · rfl

private theorem walk_of_find_file {path : String} {place : Place} {content : List UInt8}
    (h : d.find path = .ok (place, .file content)) :
    d.walk (d.start path).1 (d.start path).2 = .ok place ∧
      d.node? place = some (.file content) := by
  obtain ⟨_, -, h⟩ := bind_eq_ok_iff.mp h
  obtain ⟨last, hwalk, h⟩ := bind_eq_ok_iff.mp h
  split at h
  · cases h
  · next hnode =>
    split at h <;> cases h
    exact ⟨hwalk, hnode⟩
  · cases h

/-- The path of a file has a stem. -/
theorem exists_stem?_of_isFile {path : String} (h : d.isFile path = true) :
    ∃ stem, Location.stem? path = some stem := by
  have hhere := d.holdsHere_start path
  unfold isFile at h
  split at h
  · next place content hfind =>
    obtain ⟨hwalk, hnode⟩ := walk_of_find_file hfind
    obtain ⟨name, hname, hdot, hdots⟩ := getLast?_of_walk
      (node?_of_holdsHere hhere) (isGrounded_of_holdsHere hhere) hwalk hnode
    rw [Location.stem?, Location.getLast?_steps hname hdot]
    simp [hdot, hdots]
  · cases h

end Disk

end Certification
