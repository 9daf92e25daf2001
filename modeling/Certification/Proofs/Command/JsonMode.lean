import Certification.Proofs.Command.Engagement
import Certification.Proofs.Command.Published
import Certification.Proofs.Command.Verdicts
import Certification.Proofs.Json.Indented

/-!
# The output of a run in JSON

A run that prints its report prints a JSON document: the report holds no binary64 numbers and is not
nested deeply, whatever the suites are called and whatever their failures say. The report is the
whole of the output, and what is saved, unless a badge is asked for too: what is said about the badge
follows the report on the same output, which then is no JSON document any more.
-/

namespace Certification

open Certification.Text
open Json (Fits)

/-! ### Reports -/

private theorem Duration.fits_entries {depth : Nat} (d : Duration) :
    Fits (depth + 1) (.object d.entries) := by
  simp [entries]

private theorem ReportSummary.fits_entries {depth : Nat} (s : ReportSummary) :
    Fits (depth + 1) (.object s.entries) := by
  simp [entries]

private theorem Failure.fits_entries {depth : Nat} (f : Failure) :
    Fits (depth + 1) (.object f.entries) := by
  simp [entries, Severity.toJson]

private theorem Verdict.fits_entries {depth : Nat} (v : Verdict) :
    Fits (depth + 3) (.object v.entries) := by
  have hfailures : ∀ f ∈ v.failures, Fits (depth + 1) (.object f.entries) :=
    fun f _ ↦ f.fits_entries
  simpa [entries] using hfailures

private theorem SuiteStatus.fits_entries {depth : Nat} (s : SuiteStatus) :
    ∀ e ∈ s.entries, Fits (depth + 3) e.2 := by
  cases s with
  | failed verdict => simpa [entries] using verdict.fits_entries
  | loadFailed _ | crashed _ | passed | skipped => simp [entries]

private theorem SuiteOutcome.fits_entries {depth : Nat} (o : SuiteOutcome) :
    Fits (depth + 4) (.object o.entries) := by
  have hstatus : ∀ e ∈ o.status.entries, Fits (depth + 3) e.2 := o.status.fits_entries
  have hduration : Fits (depth + 3) (.object o.duration.entries) := o.duration.fits_entries
  rw [Json.fits_object_iff, entries, entriesUntimed, List.forall_mem_append, List.forall_mem_append,
    List.forall_mem_singleton]
  refine ⟨⟨?_, hstatus⟩, hduration⟩
  cases o.testId <;> cases o.target <;> simp [presentEntries]

private theorem Report.fits_toJson (r : Report) : Fits 6 r.toJson := by
  have hduration : Fits 5 (.object r.duration.entries) := r.duration.fits_entries
  have hsummary : Fits 5 (.object r.summary.entries) := r.summary.fits_entries
  have hresults : ∀ o ∈ r.results, Fits 4 (.object o.entries) := fun o _ ↦ o.fits_entries
  have hparts := And.intro hduration (And.intro hsummary hresults)
  simpa [toJson, Timestamp.toJson, Json.ofStrings] using hparts

private theorem Report.toJson?_json (r : Report) (rest : String) :
    (Reading.ofText (r.json ++ ("\n" ++ rest))).toJson? =
      if rest.toList.all isSeparator = true then some r.toJson.canonical else none := by
  have hends : Document.EndsNumber ("\n" ++ rest).toList := by
    intro c hc
    rw [String.toList_append] at hc
    obtain rfl : '\n' = c := Option.some.inj hc
    decide
  rw [Report.json, Reading.toJson?_indented r.fits_toJson (by decide) hends, String.toList_append]
  rfl

/-! ### Publications -/

section Publications

open Certification.Action

variable {scene after : Scene} {u : Unit}

private theorem output_of_change {f : Disk → Except FileError Disk}
    (h : change f scene = (.ok u, after)) : after.output = scene.output := by
  obtain ⟨disk, -, rfl⟩ := change_eq_ok h
  rfl

/-- A report that is saved is not printed. -/
theorem output_of_saveReport {path text : String} (h : saveReport path text scene = (.ok u, after)) :
    after.output = scene.output := by
  rw [saveReport_eq] at h
  obtain ⟨_, made, hmade, hwrite⟩ := bind_eq_ok h
  rw [output_of_change hwrite]
  cases hparent : Location.parent? path with
  | none =>
    rw [hparent] at hmade
    cases hmade
    rfl
  | some parent =>
    rw [hparent, Option.elim_some] at hmade
    split at hmade
    · cases hmade
      rfl
    · exact output_of_change hmade

/-- Where a badge is written. -/
def Config.badgeFile (c : Config) : String := Location.join c.badgeDirectory "certified.svg"

private theorem output_of_publishBadge {c : Config} {report : Report}
    (h : publishBadge c report scene = (.ok u, after)) :
    after.output = scene.output ++ remarkLine ("Badge written to " ++ c.badgeFile) ++ "\n" := by
  obtain ⟨path, saved, hsave, hsay⟩ := bind_eq_ok h
  obtain ⟨_, made, hmade, hsave⟩ := bind_eq_ok hsave
  obtain ⟨_, written, hwrite, hpath⟩ := bind_eq_ok hsave
  cases hpath
  cases hsay
  rw [← output_of_change hmade, ← output_of_change hwrite]
  rfl

/-- What follows the report on the output: nothing, or what is said about the badge. -/
def Plan.afterReport (p : Plan) (c : Config) : String :=
  if p.badge then remarkLine ("Badge written to " ++ c.badgeFile) ++ "\n" else ""

private theorem Plan.all_isSeparator_afterReport (p : Plan) (c : Config) :
    (p.afterReport c).toList.all isSeparator = !p.badge := by
  have hremark (message : String) :
      (remarkLine message ++ "\n").toList = 'ℹ' :: ' ' :: (message.toList ++ ['\n']) := by
    simp [remarkLine]
  unfold afterReport
  cases p.badge with
  | false => rfl
  | true =>
    rw [if_pos rfl, hremark]
    rfl

private theorem Plan.flags_of_ofArguments {a : Arguments} {c : Config} {p : Plan}
    (h : ofArguments a c = .ok p) : p.json = a.json ∧ p.badge = a.badge := by
  unfold ofArguments at h
  split at h
  · cases h
  · cases h
    exact ⟨rfl, rfl⟩

/-- A publication in JSON that ends without a fault prints the report, and then what is said about
the badge. -/
theorem output_of_publish {p : Plan} {c : Config} {run : CertificationRun} {certified : Bool}
    (hjson : p.json = true) (h : publish p c run scene = (.ok certified, after)) :
    after.output = scene.output ++ (Report.ofRun run).json ++ "\n" ++ p.afterReport c := by
  rw [publish_eq, if_pos hjson, if_pos hjson] at h
  obtain ⟨_, reported, hreport, h⟩ := bind_eq_ok h
  obtain ⟨_, badged, hbadge, h⟩ := bind_eq_ok h
  cases h
  obtain ⟨_, said, hsaid, hsaved⟩ := bind_eq_ok hreport
  cases hsaid
  have hreported := output_of_saveReport hsaved
  unfold Plan.afterReport
  split at hbadge
  · next hasked =>
    rw [if_pos hasked, output_of_publishBadge hbadge, hreported]
    simp only [String.append_assoc]
  · next hno =>
    cases hbadge
    rw [if_neg hno, hreported, String.append_empty]

end Publications

/-! ### Runs -/

namespace Host

variable {π : Type} (h : Host π) {arguments : List String} {a : Arguments}

/-- The arguments ask for JSON, and the certification that they ask for ends without a fault. -/
structure EndsInJson (arguments : List String) (a : Arguments) (disk : Disk) (state : π)
    (certified : Bool) : Prop where
  read : Arguments.read arguments = .ok (.certify a)
  json : a.json = true
  ends : (h.certify (a.withEnvironment h.environment) ⟨disk, "", ""⟩ state).1 = .ok certified

/-- A run in JSON that ends without a fault prints the report of the suites, and then what is said
about the badge; without a badge the report is in its file. -/
theorem exists_report_of_endsInJson {disk : Disk} {state : π} {certified : Bool}
    (he : h.EndsInJson arguments a disk state certified) :
    ∃ c p located run, h.prepare (a.withEnvironment h.environment) disk = .ok (c, p, located) ∧
      (h.trial disk c p located (Program.start state)).answer = .ok run ∧ p.badge = a.badge ∧
      (h.run arguments disk state).scene.output =
        (Report.ofRun run).json ++ ("\n" ++ p.afterReport c) ∧
      (a.badge = false → (h.run arguments disk state).scene.disk.read c.reportFile =
        .ok (Utf8.encode (Report.ofRun run).json)) := by
  obtain ⟨c, p, located, run, hprepare, hrun, hpublish⟩ := h.published_of_certify_ok he.ends
  obtain ⟨_, -, -, hplan, -⟩ := h.prepare_eq_ok_iff.mp hprepare
  obtain ⟨hjson, hbadge⟩ := Plan.flags_of_ofArguments hplan
  have hasked : p.json = true := hjson.trans he.json
  have hfinish : (h.run arguments disk state).scene =
      (h.certify (a.withEnvironment h.environment) ⟨disk, "", ""⟩ state).2.1 := by
    rw [h.run_of_read he.read disk state]
    dsimp only
    rw [he.ends]
    rfl
  obtain ⟨-, -, hsaved, -⟩ := publish_eq_ok hpublish
  refine ⟨c, p, located, run, hprepare, hrun, hbadge, ?_, fun hno ↦ ?_⟩
  · rw [hfinish, output_of_publish hasked hpublish, String.empty_append, String.append_assoc]
  · rw [hfinish]
    exact hsaved hasked (hbadge.trans hno)

/-- JSON mode prints JSON, unless a badge is asked for. A run that is asked for JSON and ends without
a fault prints the report of the suites, whatever the suites and their outcomes are. Without a badge
the whole of the output is one JSON document, which is the report, and it is what stands in the file
of the report, but for the line feed at its end. With a badge a remark about it follows the report,
and the output as a whole is no JSON document. -/
theorem run_json_document {disk : Disk} {state : π} {certified : Bool}
    (he : h.EndsInJson arguments a disk state certified) :
    ∃ c p located run, h.prepare (a.withEnvironment h.environment) disk = .ok (c, p, located) ∧
      (h.trial disk c p located (Program.start state)).answer = .ok run ∧
      let report := Report.ofRun run
      let finish := h.run arguments disk state
      (a.badge = false →
        finish.scene.output = report.json ++ "\n" ∧
        finish.scene.disk.read c.reportFile = .ok (Utf8.encode report.json) ∧
        (Reading.ofText finish.scene.output).toJson? = some report.toJson.canonical) ∧
      (a.badge = true →
        finish.scene.output =
          report.json ++ "\n" ++ remarkLine ("Badge written to " ++ c.badgeFile) ++ "\n" ∧
        (Reading.ofText finish.scene.output).toJson? = none) := by
  obtain ⟨c, p, located, run, hprepare, hrun, hbadge, houtput, hsaved⟩ :=
    h.exists_report_of_endsInJson he
  have hread := (Report.ofRun run).toJson?_json (p.afterReport c)
  rw [p.all_isSeparator_afterReport c, hbadge] at hread
  refine ⟨c, p, located, run, hprepare, hrun, fun hno ↦ ⟨?_, hsaved hno, ?_⟩, fun hasked ↦ ⟨?_, ?_⟩⟩
  · rw [houtput, Plan.afterReport, hbadge, hno]
    simp
  · rw [houtput, hread, hno]
    rfl
  · rw [houtput, Plan.afterReport, hbadge, hasked, if_pos rfl]
    simp only [String.append_assoc]
  · rw [houtput, hread, hasked]
    rfl

/-- A host that finds nothing but the program of a resolver, and never starts it. -/
def idle : Host Unit where
  environment _ := none
  configHome? := none
  start _ _ _ state := (.error .notFound, state)
  startedAt := .epoch
  completedAt := .epoch

/-- A directory with a program and nothing else. -/
def programDisk : Disk := ⟨"/work", [(["calc.sh"], .file [])]⟩

/-- Arguments that ask for a suite, for JSON and perhaps for a badge. -/
def askingJson (badge : Bool) : Arguments where
  resolver := some "calc.sh"
  suitesDir := none
  suites := ["S"]
  json := true
  badge := badge
  config := some "absent.toml"
  verbose := false

/-- These arguments on a command line. -/
def jsonLine (badge : Bool) : List String :=
  ["-c", "absent.toml", "-r", "calc.sh", "-s", "S", "--json"] ++ if badge then ["--badge"] else []

private theorem endsInJson_idle (badge : Bool) :
    idle.EndsInJson (jsonLine badge) (askingJson badge) programDisk () false := by
  refine ⟨?_, rfl, ?_⟩
  · cases badge <;> decide
  · cases badge <;> exact eq_ok_of_toOption (by decide +kernel)

/-- Without a badge the output is the report of the suite that was not found. -/
theorem run_json_document_idle :
    idle.EndsInJson (jsonLine false) (askingJson false) programDisk () false ∧
      ∃ report : Report,
        (idle.run (jsonLine false) programDisk ()).scene.output = report.json ++ "\n" ∧
        (Reading.ofText (idle.run (jsonLine false) programDisk ()).scene.output).toJson? =
          some report.toJson.canonical := by
  obtain ⟨c, p, located, run, -, -, hplain, -⟩ := run_json_document idle (endsInJson_idle false)
  obtain ⟨houtput, -, hdocument⟩ := hplain rfl
  exact ⟨endsInJson_idle false, _, houtput, hdocument⟩

/-- With a badge the output is no JSON document. -/
theorem not_forall_output_isJson :
    ¬ ∀ (h : Host Unit) (arguments : List String) (a : Arguments) (disk : Disk) (state : Unit)
        (certified : Bool), h.EndsInJson arguments a disk state certified →
          ∃ j, (Reading.ofText (h.run arguments disk state).scene.output).toJson? = some j := by
  intro hall
  have he := endsInJson_idle true
  obtain ⟨j, hj⟩ := hall _ _ _ _ _ _ he
  obtain ⟨c, p, located, run, -, -, hbadge, houtput, -⟩ := idle.exists_report_of_endsInJson he
  rw [houtput, Report.toJson?_json, p.all_isSeparator_afterReport c, hbadge] at hj
  cases hj

end Host

end Certification
