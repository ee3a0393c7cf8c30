import Guideline.Violation

/-!
# Violations by file
-/

namespace Guideline.Report

/-- Splits violations into the runs of those in one file. -/
def groupByFile : List Violation → List (String × List Violation)
  | [] => []
  | v :: rest =>
    match groupByFile rest with
    | [] => [(v.filePath, [v])]
    | (path, group) :: more =>
      if v.filePath = path then (path, v :: group) :: more
      else (v.filePath, [v]) :: (path, group) :: more

/-- The text with the given lines. -/
def ofLines (lines : List String) : String :=
  String.join (lines.map (· ++ "\n"))

end Guideline.Report
