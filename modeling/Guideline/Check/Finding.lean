import Guideline.Path
import Guideline.Rule.Basic
import Guideline.Source.File

/-!
# Findings

A check of a file finds lines, perhaps with a hint of its own. Together with the rule a finding
makes a violation, in which a suggestion of the rule goes before the hint.
-/

namespace Guideline

/-- A file under its path. -/
structure CheckedFile where
  path : String
  kind : FileKind
  source : SourceFile

structure Finding where
  line : Nat
  hint : Option String := none
deriving DecidableEq, Repr

/-- The violation of a rule by a finding. Its line is a line of the file, or 1 in an empty file. -/
def Finding.violation (f : Finding) (file : CheckedFile) (rule : Rule) : Violation :=
  let line := max 1 (min f.line (max file.source.lineCount 1))
  { rule := rule.id
    description := rule.description
    filePath := Path.display file.path
    line
    lineContent := excerpt (file.source.rawLine line)
    severity := rule.severity
    suggestion := (rule.suggestion <|> f.hint).getD ""
    category := rule.category }

end Guideline
