import Certification.Proofs.Command.Engagement
import Certification.Proofs.Command.Published
import Certification.Proofs.Suite.Bookkeeping
import Mathlib.Data.List.TFAE
import Mathlib.Tactic.TFAE

/-!
# The verdicts of the command

The exit status, the report and the badge each say whether a resolver is certified, and each is made
from another number or mark of the run. They agree, and none of them certifies without evidence:
there is always a suite, and all of them have passed.
-/

namespace Certification

/-! ### Badges -/

namespace Report

/-- The last text in a badge is a word. -/
def Reads (badge word : String) : Prop :=
  ∃ before, badge = before ++ ">" ++ word ++ "</text>\n</svg>"

private theorem reads_badge (certified : Bool) :
    Reads (badge certified) (if certified then "CERTIFIED" else "FAILED") := ⟨_, rfl⟩

private theorem Reads.suffix {badge word : String} (h : Reads badge word) :
    (">" ++ word ++ "</text>\n</svg>").toList <:+ badge.toList := by
  obtain ⟨before, rfl⟩ := h
  exact ⟨before.toList, by simp only [String.toList_append, List.append_assoc]⟩

private theorem reads_badge_iff (certified : Bool) :
    Reads (badge certified) "CERTIFIED" ↔ certified = true := by
  constructor
  · intro h
    cases certified with
    | true => rfl
    | false =>
      have hshort := List.suffix_of_suffix_length_le (reads_badge false).suffix h.suffix (by decide)
      exact absurd hshort (by decide)
  · rintro rfl
    exact reads_badge true

end Report

/-! ### Runs -/

namespace Suites

variable {σ : Type}

private theorem verdict_of_run {s : Suites} {r : Resolver σ} {suites : List String}
    {startedAt completedAt : Timestamp} {state : σ} {run : CertificationRun}
    (h : (s.run r suites startedAt completedAt state).answer = .ok run) :
    run.outcomes.map (·.suite) = suites ∧ (run.isCertified = true ↔ run.failed = 0) ∧
      (run.failed = 0 ↔ ∀ o ∈ run.outcomes, o.status = .passed) := by
  rw [run_eq] at h
  obtain rfl := Except.ok.inj h
  refine ⟨s.map_suite_outcomes r suites state, beq_iff_eq, ?_⟩
  rw [← s.countP_isFailed_outcomes_eq_zero_iff r suites state, countP_isFailed_outcomes]

end Suites

namespace Host

variable {π : Type} (h : Host π)

/-- A certification that ends with a verdict was prepared, and its run was published. -/
theorem published_of_certify_ok {a : Arguments} {scene : Scene} {state : π} {certified : Bool}
    (hc : (h.certify a scene state).1 = .ok certified) :
    ∃ c p located run, h.prepare a scene.disk = .ok (c, p, located) ∧
      (h.trial scene.disk c p located (Program.start state)).answer = .ok run ∧
      publish p c run scene = (.ok certified, (h.certify a scene state).2.1) := by
  cases hp : h.prepare a scene.disk with
  | error fault =>
    rw [h.certify_of_prepare_error scene hp] at hc
    cases hc
  | ok found =>
    obtain ⟨c, p, located⟩ := found
    obtain ⟨run, hrun, hcertify⟩ := h.certify_of_prepare_ok scene hp state
    rw [hcertify] at hc ⊢
    exact ⟨c, p, located, run, rfl, hrun, Prod.ext hc rfl⟩

/-- A command line that is not understood and a certification that ends in a fault make the exit
status fail. A certification that ends with a verdict had suites to run, and the exit status, the
report that is printed and saved, the badge that is saved and the outcomes of the suites all give
the same verdict: the resolver is certified exactly when every suite has passed. -/
theorem run_verdicts_agree (arguments : List String) (disk : Disk) (state : π) :
    match Arguments.read arguments with
    | .error _ => (h.run arguments disk state).exit ≠ 0
    | .ok .help | .ok .version =>
      (h.run arguments disk state).scene.disk = disk ∧ (h.run arguments disk state).state = state
    | .ok (.certify a) =>
      match (h.certify (a.withEnvironment h.environment) ⟨disk, "", ""⟩ state).1 with
      | .error _ => (h.run arguments disk state).exit ≠ 0
      | .ok _ =>
        let finish := h.run arguments disk state
        ∃ c p located run,
          h.prepare (a.withEnvironment h.environment) disk = .ok (c, p, located) ∧
          (h.trial disk c p located (Program.start state)).answer = .ok run ∧
          let report := Report.ofRun run
          p.suites ≠ [] ∧ report.suites = p.suites ∧ report.results ≠ [] ∧
          [finish.exit = 0, report.passed = true, report.failedTests = 0,
            report.summary.certified = true, Report.Reads report.badgeOf "CERTIFIED",
            ∀ o ∈ report.results, o.status = .passed].TFAE ∧
          (p.json = true → ∃ more, finish.scene.output = report.json ++ "\n" ++ more) ∧
          (p.json = true → p.badge = false →
            finish.scene.disk.read c.reportFile = .ok (Text.Utf8.encode report.json)) ∧
          (p.badge = true →
            finish.scene.disk.read (Location.join c.badgeDirectory "certified.svg") =
              .ok (Text.Utf8.encode report.badgeOf)) := by
  split
  · next fault hread =>
    unfold run
    rw [hread]
    exact Nat.succ_ne_zero 1
  · next hread =>
    unfold run
    rw [hread]
    exact ⟨rfl, rfl⟩
  · next hread =>
    unfold run
    rw [hread]
    exact ⟨rfl, rfl⟩
  next a hread =>
  rw [h.run_of_read hread disk state]
  dsimp only
  split
  · next fault hfault =>
    rw [hfault]
    exact Nat.one_ne_zero
  next certified hcertified =>
  obtain ⟨c, p, located, run, hp, hrun, hpublish⟩ := h.published_of_certify_ok hcertified
  obtain ⟨_, -, -, hplan, -⟩ := h.prepare_eq_ok_iff.mp hp
  obtain ⟨rfl, houtput, hreport, hbadge⟩ := publish_eq_ok hpublish
  obtain ⟨hsuites, hcount, hpassed⟩ := Suites.verdict_of_run hrun
  have hnonempty := Plan.suites_ne_nil hplan
  refine ⟨c, p, located, run, hp, hrun, hnonempty, hsuites, ?_, ?_, ?_, ?_, ?_⟩
  · rintro hnone
    rw [← hsuites, show run.outcomes = [] from hnone] at hnonempty
    exact hnonempty rfl
  · rw [hcertified]
    tfae_have 1 ↔ 2 := by
      change (if run.isCertified = true then 0 else 1) = 0 ↔ run.isCertified = true
      cases run.isCertified <;> decide
    tfae_have 2 ↔ 3 := hcount
    tfae_have 2 ↔ 4 := Iff.rfl
    tfae_have 5 ↔ 4 := Report.reads_badge_iff _
    tfae_have 3 ↔ 6 := hpassed
    tfae_finish
  · rw [hcertified]
    intro hjson
    obtain ⟨more, hmore⟩ := houtput hjson
    rw [String.empty_append] at hmore
    exact ⟨more, hmore⟩
  · rw [hcertified]
    exact hreport
  · rw [hcertified]
    exact hbadge

end Host

end Certification
