import Certification.Command.Publish
import Certification.Proofs.Files.Written

/-!
# What is published

What a publication that ends without a fault leaves: the report at the start of the output and in
its file, and the badge in its file, as far as they are asked for. Nothing that was printed is taken
back, and the badge is the last thing that is written.
-/

namespace Certification

namespace Action

variable {α β : Type}

/-- One action after the other ends without a fault when both do. -/
theorem bind_eq_ok {m : Action α} {f : α → Action β} {scene after : Scene} {b : β}
    (h : (m >>= f) scene = (.ok b, after)) :
    ∃ a middle, m scene = (.ok a, middle) ∧ f a middle = (.ok b, after) := by
  change Action.bind m f scene = _ at h
  unfold Action.bind at h
  rcases hm : m scene with ⟨result, middle⟩
  rw [hm] at h
  cases result with
  | error fault => cases h
  | ok a => exact ⟨a, middle, rfl, h⟩

/-- A change that ends without a fault leaves the changed files. -/
theorem change_eq_ok {f : Disk → Except FileError Disk} {scene after : Scene} {u : Unit}
    (h : change f scene = (.ok u, after)) :
    ∃ disk, f scene.disk = .ok disk ∧ after = { scene with disk } := by
  unfold change at h
  split at h
  · next disk hdisk => exact ⟨disk, hdisk, (congrArg Prod.snd h).symm⟩
  · cases h

/-- The action takes nothing back that was printed. -/
def Extends (m : Action α) : Prop :=
  ∀ scene, ∃ more, (m scene).2.output = scene.output ++ more

namespace Extends

private theorem pure (a : α) :
    Extends (Pure.pure a : Action α) := fun _ ↦ ⟨"", String.append_empty.symm⟩

/-- A line comes after what was printed. -/
theorem say (line : String) : Extends (Action.say line) :=
  fun _ ↦ ⟨line ++ "\n", String.append_assoc⟩

/-- A change of files prints nothing. -/
theorem change (f : Disk → Except FileError Disk) : Extends (Action.change f) := by
  refine fun scene ↦ ⟨"", ?_⟩
  unfold Action.change
  split <;> exact String.append_empty.symm

/-- One action after the other takes nothing back when neither does. -/
theorem bind {m : Action α} {f : α → Action β} (hm : Extends m) (hf : ∀ a, Extends (f a)) :
    Extends (m >>= f) := by
  intro scene
  obtain ⟨more, hmore⟩ := hm scene
  change ∃ more, (Action.bind m f scene).2.output = _
  unfold Action.bind
  rcases hrun : m scene with ⟨result, middle⟩
  rw [hrun] at hmore
  cases result with
  | error fault => exact ⟨more, hmore⟩
  | ok a =>
    obtain ⟨later, hlater⟩ := hf a middle
    exact ⟨more ++ later, by rw [hlater, hmore, String.append_assoc]⟩

end Extends

end Action

open Certification.Action

/-! ### The stages -/

/-- A publication: the report or the outcomes, then the badge, then the verdict. -/
theorem publish_eq (p : Plan) (c : Config) (run : CertificationRun) :
    publish p c run =
      (if p.json then publishReport c (.ofRun run) else publishOutcomes run.outcomes) >>= fun _ ↦
      (if p.badge then publishBadge c (.ofRun run) else pure ()) >>= fun _ ↦
      (if p.json then pure () else publishVerdict run) >>= fun _ ↦ pure run.isCertified := by
  unfold publish
  cases p.json <;> cases p.badge <;> rfl

/-- A report is saved by making the directory for it, if it is named, and writing it. -/
theorem saveReport_eq (path text : String) :
    saveReport path text =
      ((Location.parent? path).elim (pure ()) fun parent ↦
        if parent = "" then pure () else change (·.makeDirectories parent)) >>= fun _ ↦
      change (·.write path (Text.Utf8.encode text)) := by
  unfold saveReport
  cases Location.parent? path with
  | none => rfl
  | some parent =>
    dsimp only [Option.elim_some]
    split <;> rfl

private theorem extends_publishBadge (c : Config) (report : Report) :
    Extends (publishBadge c report) :=
  .bind (.bind (.change _) fun _ ↦ .bind (.change _) fun _ ↦ .pure _) fun _ ↦ .say _

private theorem disk_publishVerdict (run : CertificationRun) (scene : Scene) :
    (publishVerdict run scene).2.disk = scene.disk := by
  unfold publishVerdict
  split <;> rfl

private theorem read_of_saveReport {path text : String} {scene after : Scene} {u : Unit}
    (h : saveReport path text scene = (.ok u, after)) :
    after.disk.read path = .ok (Text.Utf8.encode text) := by
  rw [saveReport_eq] at h
  obtain ⟨_, made, -, hwrite⟩ := bind_eq_ok h
  obtain ⟨disk, hdisk, rfl⟩ := change_eq_ok hwrite
  exact Disk.read_of_write hdisk

private theorem extends_saveReport (path text : String) : Extends (saveReport path text) := by
  rw [saveReport_eq]
  refine .bind ?_ fun _ ↦ .change _
  cases Location.parent? path with
  | none => exact .pure _
  | some parent =>
    dsimp only [Option.elim_some]
    split
    · exact .pure _
    · exact .change _

private theorem read_of_publishBadge {c : Config} {report : Report} {scene after : Scene} {u : Unit}
    (h : publishBadge c report scene = (.ok u, after)) :
    after.disk.read (Location.join c.badgeDirectory "certified.svg") =
      .ok (Text.Utf8.encode report.badgeOf) := by
  obtain ⟨_, saved, hsave, hsay⟩ := bind_eq_ok h
  obtain ⟨_, made, -, hsave⟩ := bind_eq_ok hsave
  obtain ⟨_, written, hwrite, hpath⟩ := bind_eq_ok hsave
  obtain ⟨disk, hdisk, rfl⟩ := change_eq_ok hwrite
  cases hpath
  cases hsay
  exact Disk.read_of_write hdisk

/-! ### Publications -/

/-- A publication that ends without a fault leaves the report, if it is asked for, at the start of
the output and in its file, unless the badge is written after it, and the badge, if it is asked for,
in its file. Its result is the verdict on the run. -/
theorem publish_eq_ok {p : Plan} {c : Config} {run : CertificationRun} {scene after : Scene}
    {certified : Bool} (h : publish p c run scene = (.ok certified, after)) :
    certified = run.isCertified ∧
    (p.json = true → ∃ more,
      after.output = scene.output ++ (Report.ofRun run).json ++ "\n" ++ more) ∧
    (p.json = true → p.badge = false →
      after.disk.read c.reportFile = .ok (Text.Utf8.encode (Report.ofRun run).json)) ∧
    (p.badge = true → after.disk.read (Location.join c.badgeDirectory "certified.svg") =
      .ok (Text.Utf8.encode (Report.ofRun run).badgeOf)) := by
  rw [publish_eq] at h
  obtain ⟨_, reported, hreport, h⟩ := bind_eq_ok h
  obtain ⟨_, badged, hbadge, h⟩ := bind_eq_ok h
  obtain ⟨_, judged, hverdict, h⟩ := bind_eq_ok h
  cases h
  have hdisk : after.disk = badged.disk := by
    split at hverdict
    · cases hverdict
      rfl
    · exact (congrArg (·.2.disk) hverdict).symm.trans (disk_publishVerdict run badged)
  refine ⟨rfl, fun hjson ↦ ?_, fun hjson hno ↦ ?_, fun hasked ↦ ?_⟩
  · rw [if_pos hjson] at hreport hverdict
    cases hverdict
    obtain ⟨_, said, hsaid, hsaved⟩ := bind_eq_ok hreport
    cases hsaid
    obtain ⟨more, hmore⟩ := extends_saveReport c.reportFile (Report.ofRun run).json _
    have hbadged : Extends (if p.badge then publishBadge c (.ofRun run) else pure ()) := by
      split
      · exact extends_publishBadge c _
      · exact .pure _
    obtain ⟨later, hlater⟩ := hbadged reported
    rw [hbadge] at hlater
    rw [hsaved] at hmore
    refine ⟨more ++ later, ?_⟩
    rw [hlater, hmore]
    simp only [String.append_assoc]
  · rw [if_pos hjson] at hreport
    rw [hno] at hbadge
    cases hbadge
    rw [hdisk]
    obtain ⟨_, said, -, hsaved⟩ := bind_eq_ok hreport
    exact read_of_saveReport hsaved
  · rw [if_pos hasked] at hbadge
    rw [hdisk]
    exact read_of_publishBadge hbadge

end Certification
