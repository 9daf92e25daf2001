import Certification.Suite.Run
import Certification.Text.Padding

/-!
# Reports

What a run of suites comes to, as a record, as a text in a box, as indented JSON with its fields in
a fixed order, and as a badge.
-/

namespace Certification

/-- The counts of a report. -/
structure ReportSummary where
  total : Nat
  passed : Nat
  failed : Nat
  skipped : Nat
  certified : Bool
  deriving DecidableEq, Repr

namespace ReportSummary

/-- The fields of a summary in data. -/
def dataShape : Shape where
  name := "ReportSummary"
  fields :=
    [.of "total" Decoder.size [], .of "passed" Decoder.size [], .of "failed" Decoder.size [],
     .of "skipped" Decoder.size [], .of "certified" Decoder.bool []]

/-- Reads a summary. -/
def decode : Decoder ReportSummary := fun origin d ↦ do
  let fields ← dataShape.gather origin d
  let total ← fields.required origin "total" Decoder.size
  let passed ← fields.required origin "passed" Decoder.size
  let failed ← fields.required origin "failed" Decoder.size
  let skipped ← fields.required origin "skipped" Decoder.size
  let certified ← fields.required origin "certified" Decoder.bool
  pure ⟨total, passed, failed, skipped, certified⟩

/-- Entries of the summary in data, in the order in which they are printed. -/
def entries (s : ReportSummary) : List (String × Json) :=
  [("total", .ofNat s.total), ("passed", .ofNat s.passed), ("failed", .ofNat s.failed),
   ("skipped", .ofNat s.skipped), ("certified", .bool s.certified)]

end ReportSummary

/-- A certification report (`CertificationReport`). -/
structure Report where
  passed : Bool
  failedTests : Nat
  suites : List String
  resolver : String
  timestamp : Timestamp
  duration : Duration
  summary : ReportSummary
  results : List SuiteOutcome
  deriving DecidableEq

namespace Report

/-- The report of a run (`CertificationReport::from_run`). -/
def ofRun (run : CertificationRun) : Report where
  passed := run.isCertified
  failedTests := run.failed
  suites := run.outcomes.map (·.suite)
  resolver := run.resolver
  timestamp := run.completedAt
  duration := run.completedAt.since run.startedAt
  summary := ⟨run.outcomes.length, run.passed, run.failed, run.skipped, run.isCertified⟩
  results := run.outcomes

/-! ## Data form -/

/-- The fields of a report in data. -/
def dataShape : Shape where
  name := "CertificationReport"
  fields :=
    [.of "passed" Decoder.bool [], .of "failedTests" Decoder.size [],
     .of "suites" (Decoder.list Decoder.string) [], .of "resolver" Decoder.string [],
     .of "timestamp" Timestamp.decode [], .of "duration" Duration.decode [],
     .of "summary" ReportSummary.decode [],
     .of "results" (Decoder.list SuiteOutcome.decode) []]

/-- Reads a report. -/
def decode : Decoder Report := fun origin d ↦ do
  let fields ← dataShape.gather origin d
  let passed ← fields.required origin "passed" Decoder.bool
  let failedTests ← fields.required origin "failedTests" Decoder.size
  let suites ← fields.required origin "suites" (Decoder.list Decoder.string)
  let resolver ← fields.required origin "resolver" Decoder.string
  let timestamp ← fields.required origin "timestamp" Timestamp.decode
  let duration ← fields.required origin "duration" Duration.decode
  let summary ← fields.required origin "summary" ReportSummary.decode
  let results ← fields.required origin "results" (Decoder.list SuiteOutcome.decode)
  pure ⟨passed, failedTests, suites, resolver, timestamp, duration, summary, results⟩

/-- The report in data, its entries in the order in which they are printed. -/
def toJson (r : Report) : Json :=
  .object
    [("passed", .bool r.passed), ("failedTests", .ofNat r.failedTests),
     ("suites", .ofStrings r.suites), ("resolver", .string r.resolver),
     ("timestamp", r.timestamp.toJson), ("duration", .object r.duration.entries),
     ("summary", .object r.summary.entries),
     ("results", .array (r.results.map fun o ↦ .object o.entries))]

/-- The report as indented JSON (`CertificationReport::to_json`). -/
def json (r : Report) : String := r.toJson.indented

/-! ## Text -/

/-- Lines of the box. -/
def ruleOf (left right : String) : String :=
  left ++ String.join (List.replicate 60 "═") ++ right ++ "\n"

/-- A line inside the box, padded up to its right side. -/
def boxed (content : String) : String := "║" ++ Text.padRight 60 content ++ "║\n"

/-- A line inside the box for a label and a value of some width. -/
def labelled (label : String) (width : Nat) (value : String) : String :=
  "║  " ++ label ++ ": " ++ Text.padRight width value ++ " ║\n"

/-- Mark of a status. -/
def mark : SuiteStatus → String
  | .passed => "✓"
  | .failed _ | .loadFailed _ => "✗"
  | .crashed _ => "!"
  | .skipped => "○"

/-- What is said below the line of a suite. -/
def remarks : SuiteStatus → List String
  | .failed verdict => verdict.failures.map Failure.line
  | .loadFailed reason => ["Not evaluated: " ++ reason]
  | .crashed reason => ["Crashed: " ++ reason]
  | .passed | .skipped => []

/-- Lines of a suite. -/
def resultText (o : SuiteOutcome) : String :=
  "║  " ++ mark o.status ++ " " ++ Text.padRight 45 o.suite ++ " " ++
    Text.padLeft 8 o.duration.text ++ "\n" ++
    String.join ((remarks o.status).map fun remark ↦ "║      " ++ remark ++ "\n")

/-- Line of the counts. -/
def countsText (s : ReportSummary) : String :=
  "║    Total: " ++ Text.padRight 5 (toString s.total) ++
    "  Passed: " ++ Text.padRight 5 (toString s.passed) ++
    "  Failed: " ++ Text.padRight 5 (toString s.failed) ++
    "  Skipped: " ++ Text.padRight 3 (toString s.skipped) ++ " ║\n"

/-- The report as a text (`CertificationReport::to_text`). -/
def text (r : Report) : String :=
  ruleOf "╔" "╗" ++ boxed "  O-lang Resolver Certification Report" ++ ruleOf "╠" "╣" ++
    labelled "Resolver" 47 r.resolver ++ labelled "Timestamp" 46 r.timestamp.display ++
    labelled "Duration" 47 r.duration.text ++ ruleOf "╠" "╣" ++
    String.join (r.results.map resultText) ++ ruleOf "╠" "╣" ++ boxed "  Summary:" ++
    countsText r.summary ++ boxed "" ++
    boxed (if r.summary.certified then "  Result: ✓ CERTIFIED" else "  Result: ✗ NOT CERTIFIED") ++
    ruleOf "╚" "╝"

/-! ## Badge -/

/-- A badge in two colours: the name of the language, and whether the resolver is certified
(`badge_svg`). -/
def badge (certified : Bool) : String :=
  let color := if certified then "#4cbb17" else "#bb2124"
  let label := if certified then "CERTIFIED" else "FAILED"
  let font := "fill=\"#fff\" font-size=\"13\" font-family=\"Arial\" text-anchor=\"middle\""
  "<svg xmlns=\"http://www.w3.org/2000/svg\" width=\"160\" height=\"28\">\n" ++
    "  <rect rx=\"4\" width=\"160\" height=\"28\" fill=\"#2d2d2d\"/>\n" ++
    "  <rect rx=\"4\" x=\"80\" width=\"80\" height=\"28\" fill=\"" ++ color ++ "\"/>\n" ++
    "  <text x=\"40\" y=\"18\" " ++ font ++ ">O-lang</text>\n" ++
    "  <text x=\"120\" y=\"18\" " ++ font ++ ">" ++ label ++ "</text>\n</svg>"

/-- The badge of a report (`CertificationReport::badge_svg`). -/
def badgeOf (r : Report) : String := badge r.summary.certified

end Report

end Certification
