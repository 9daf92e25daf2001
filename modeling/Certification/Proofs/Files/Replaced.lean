import Certification.Files.Disk

/-!
# Replacing a file

A path leads to the same place whatever a file holds, for nothing stands below a file. So when the
content of a file is replaced, every path that does not lead to the file is read as before.
-/

namespace Certification

namespace Disk

/-- The path leads to something at a place. -/
def LeadsTo (d : Disk) (path : String) (place : Place) : Prop :=
  ∃ node, d.find path = .ok (place, node)

variable (d : Disk) (place : Place) (content content' : List UInt8)

private theorem node?_put_of_holdsHere {place : Place} (h : d.holdsHere place = true) (node : Node) :
    (d.put place node).node? place = some .directory :=
  node?_of_holdsHere h

private theorem enter_put_file (walked : Place) (name : String) :
    (d.put place (.file content)).enter walked name =
      (d.put place (.file content')).enter walked name := by
  unfold enter
  by_cases h : walked = place
  · subst h
    cases hhere : d.holdsHere walked with
    | false => rw [node?_put_self hhere, node?_put_self hhere]
    | true =>
      rw [d.node?_put_of_holdsHere hhere, d.node?_put_of_holdsHere hhere]
      rfl
  · rw [node?_put_of_ne h, node?_put_of_ne h]
    rfl

private theorem walk_put_file (walked : Place) (steps : List String) :
    (d.put place (.file content)).walk walked steps =
      (d.put place (.file content')).walk walked steps := by
  induction steps generalizing walked with
  | nil => rfl
  | cons name rest ih =>
    rw [walk, walk, d.enter_put_file place content content' walked name]
    exact congrArg _ (funext ih)

variable {content}

/-- A path that does not lead to a file finds the same whatever the file holds. -/
theorem find_put_file {path : String}
    (h : ¬(d.put place (.file content)).LeadsTo path place) :
    (d.put place (.file content)).find path = (d.put place (.file content')).find path := by
  have hwalk := d.walk_put_file place content content' (d.start path).1 (d.start path).2
  have hroute (node : Node) : (d.put place node).start path = d.start path := rfl
  unfold LeadsTo at h
  unfold find at h ⊢
  simp only [hroute, ← hwalk] at h ⊢
  cases hvalid : validate path with
  | error cause => rfl
  | ok _ =>
    cases hlast : (d.put place (.file content)).walk (d.start path).1 (d.start path).2 with
    | error cause => rfl
    | ok last =>
      rw [hvalid, hlast] at h
      simp only [bind, Except.bind] at h ⊢
      by_cases hat : last = place
      · subst hat
        cases hhere : d.holdsHere last with
        | true => rw [d.node?_put_of_holdsHere hhere, d.node?_put_of_holdsHere hhere]
        | false =>
          -- Only a slash at its end keeps a path from leading to the file.
          simp only [node?_put_self hhere] at h ⊢
          split
          · rfl
          · next hslash =>
            rw [if_neg hslash] at h
            exact absurd ⟨_, rfl⟩ h
      · rw [node?_put_of_ne hat, node?_put_of_ne hat]

/-- A path that does not lead to a file is read as before when the file is replaced. -/
theorem readText_put_file {path : String}
    (h : ¬(d.put place (.file content)).LeadsTo path place) :
    (d.put place (.file content)).readText path =
      (d.put place (.file content')).readText path := by
  rw [readText, readText, read, read, d.find_put_file place content' h]

end Disk

end Certification
