import Guideline.Report.Json
import Guideline.Report.Markdown
import Guideline.Report.Text

/-!
# Report formats
-/

namespace Guideline

inductive ReportFormat where
  | text
  | json
  | markdown
  | compact
deriving DecidableEq, Repr

namespace ReportFormat

def name : ReportFormat → String
  | .text => "text"
  | .json => "json"
  | .markdown => "markdown"
  | .compact => "compact"

def ofName? (name : String) : Option ReportFormat :=
  if name = "text" then some .text
  else if name = "json" then some .json
  else if name = "markdown" || name = "pr-comment" then some .markdown
  else if name = "compact" then some .compact
  else none

/-- The message on a name that is none of a format. -/
def unknownMessage (name : String) : String :=
  s!"unknown format `{name}` (expected text, json, markdown or compact)"

end ReportFormat

/-- The report on a result. -/
def ReviewResult.render (r : ReviewResult) : ReportFormat → String
  | .text => Report.renderText r
  | .json => Report.renderJson r
  | .markdown => Report.renderMarkdown r
  | .compact => Report.renderCompact r

end Guideline
