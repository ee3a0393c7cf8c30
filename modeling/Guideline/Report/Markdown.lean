import Guideline.Report.Group
import Guideline.Review.Result

/-!
# Reports for review comments

The body of a comment on a change. It lists the violations of the first files only, and of each file
only the first of the most severe.
-/

namespace Guideline.Report

/-- The number of files listed. -/
def fileLimit : Nat := 5

/-- The number of violations listed of a file. -/
def violationLimit : Nat := 10

def statusLine (s : Summary) : String :=
  match s.worst? with
  | some .error => "**Status:** ❌ Blocking: fix the errors before merging."
  | some .warning => "**Status:** ⚠️ Review required: warnings found."
  | _ => "**Status:** ✅ Pass"

def icon : Severity → String
  | .error => "🔴"
  | .warning => "🟡"
  | .info => "🔵"

/-- The violations with the most severe first, else in their order. -/
def mostSevereFirst (vs : List Violation) : List Violation :=
  vs.mergeSort fun a b => b.severity.rank ≤ a.severity.rank

def entryLines (v : Violation) : List String :=
  s!"- {icon v.severity} **Line {v.line}** `{v.rule}`: {v.description}"
    :: (if v.suggestion.isEmpty then [] else [s!"  - 💡 *{v.suggestion}*"])

/-- The section of a file. -/
def sectionLines (group : String × List Violation) : List String :=
  let path := group.1
  let left := group.2.length - violationLimit
  [s!"#### 📁 `{path}`", ""]
    ++ ((mostSevereFirst group.2).take violationLimit).flatMap entryLines
    ++ (if left = 0 then [] else [s!"- ... and {left} more issues in this file"]) ++ [""]

/-- The block with the violations. -/
def detailsLines (r : ReviewResult) : List String :=
  let groups := groupByFile r.violations
  let left := groups.length - fileLimit
  ["<details>", s!"<summary>Issues found ({r.summary.total})</summary>", ""]
    ++ (groups.take fileLimit).flatMap sectionLines
    ++ (if left = 0 then [] else [s!"... and {left} more files", ""]) ++ ["</details>"]

def tip : Category → String
  | .naming =>
    "PascalCase types and functions, camelCase locals, `m_` members, `k` constants, `g_` globals"
  | .bestPractice =>
    "Prefer `std::make_unique`/`std::make_shared`, `nullptr`, explicit lambda captures and "
      ++ "`explicit` constructors"
  | .structural =>
    "Guard every header, keep functions short with few parameters, document public declarations"
  | .formatting => "Stay within the line limit, indent with spaces, strip trailing whitespace"

def tipLines : List String :=
  ["", "### Remediation tips", "", "| Category | Tip |", "|----------|-----|"]
    ++ Category.all.map fun c => s!"| {c.name} | {tip c} |"

/-- The report as the body of a comment. -/
def renderMarkdown (r : ReviewResult) : String :=
  if r.violations.isEmpty then
    ofLines ["## ✅ Guideline Analysis Complete", "",
      s!"No guideline violations found in {r.files} analyzed files."]
  else
    let s := r.summary
    ofLines
      (["## 📋 Guideline Analysis Report", "", s!"**Files analyzed:** {r.files}", "", "### Summary",
          s!"- 🔴 **Errors:** {s.errors}", s!"- 🟡 **Warnings:** {s.warnings}",
          s!"- 🔵 **Info:** {s.infos}", "", statusLine s, ""]
        ++ detailsLines r ++ tipLines ++ ["", "---", "*Generated by guidelint.*"])

end Guideline.Report
