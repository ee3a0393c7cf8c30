import Guideline.Document.Json.Printer
import Guideline.Review.Result

/-!
# JSON reports
-/

namespace Guideline.Report

open Document

def summaryValue (s : Summary) : Value :=
  .table [("errors", .count s.errors), ("warnings", .count s.warnings), ("info", .count s.infos),
    ("total_violations", .count s.total)]

def violationValue (v : Violation) : Value :=
  .table [("rule_name", .text v.rule), ("description", .text v.description),
    ("file_path", .text v.filePath), ("line_number", .count v.line),
    ("line_content", .text v.lineContent), ("severity", .text v.severity.name),
    ("suggestion", .text v.suggestion)]

/-- The report as a document: the counts, then the violations in order. -/
def reportValue (r : ReviewResult) : Value :=
  .table [("summary", summaryValue r.summary),
    ("violations", .list (r.violations.map violationValue))]

def renderJson (r : ReviewResult) : String :=
  String.ofList (Json.write 0 (reportValue r))

end Guideline.Report
