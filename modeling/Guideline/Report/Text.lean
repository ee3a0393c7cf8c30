import Guideline.Report.Group
import Guideline.Review.Result

/-!
# Plain text reports
-/

namespace Guideline.Report

def title : String := "C/C++ Guideline Report"

/-- A line of the given character below a text. -/
def underline (c : Char) (text : String) : String :=
  String.ofList (List.replicate text.length c)

def severityLabel : Severity → String
  | .error => "ERROR"
  | .warning => "WARNING"
  | .info => "INFO"

def violationLines (v : Violation) : List String :=
  [s!"  {severityLabel v.severity} line {v.line}: {v.description}"]
    ++ (if v.lineContent.isEmpty then [] else ["    code: " ++ v.lineContent])
    ++ (if v.suggestion.isEmpty then [] else ["    hint: " ++ v.suggestion])

def groupLines (group : String × List Violation) : List String :=
  ["", group.1, underline '-' group.1] ++ group.2.flatMap violationLines

/-- The report that people read: counts, then the violations of each file. -/
def renderText (r : ReviewResult) : String :=
  if r.violations.isEmpty then
    s!"No guideline violations found ({r.files} files analyzed).\n"
  else
    let s := r.summary
    ofLines
      ([title, underline '=' title, "", "Summary:", s!"  Errors:   {s.errors}",
          s!"  Warnings: {s.warnings}", s!"  Info:     {s.infos}", s!"  Total:    {s.total}",
          s!"  Files:    {r.files}"]
        ++ (groupByFile r.violations).flatMap groupLines)

/-- The report of one line for each violation. -/
def renderCompact (r : ReviewResult) : String :=
  ofLines (r.violations.map Violation.compact)

end Guideline.Report
