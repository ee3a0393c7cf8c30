import Guideline.Check.Line
import Guideline.Check.Structure

/-!
# Matchers

A matcher evaluates the rules of one family. A rule that it does not handle is an error, and so is
the length of functions in a file whose braces do not balance.
-/

namespace Guideline

inductive Matcher where
  | naming
  | pattern
  | structural
  | formatting
deriving DecidableEq, Repr

/-- Why a rule cannot be evaluated for a file. -/
inductive MatcherError where
  /-- Braces stop balancing at a line. -/
  | unbalanced (line : Nat)
  /-- The rule is of another family. -/
  | unsupported (matcher detection : String)
deriving DecidableEq, Repr

def MatcherError.message : MatcherError → String
  | .unbalanced line => s!"unbalanced braces near line {line}"
  | .unsupported matcher detection => s!"matcher `{matcher}` cannot evaluate {detection} rules"

/-- What a structural check finds in a file. Notes are not looked for. -/
def StructuralCheck.findings (source : SourceFile) :
    StructuralCheck → Except MatcherError (List Finding)
  | .includeGuard => .ok (Check.missingGuard source)
  | .functionLength max =>
    match source.firstUnbalanced with
    | some line => .error (.unbalanced line)
    | none => .ok (Check.longFunctions source max)
  | .functionParameters max => .ok (Check.manyParameters source max)
  | .functionComments => .ok (Check.undocumented source)
  | .explicitConstructors => .ok (Check.implicitConstructors source)
  | .lineLength max => .ok (Check.longLines source max)
  | .trailingWhitespace => .ok (Check.linesWith source Check.hasTrailingBlank)
  | .tabIndentation => .ok (Check.linesWith source Check.hasTabIndent)
  | .unreadableFile | .matcherFailure => .ok []

/-- What a rule finds in a file. -/
def Detection.findings (source : SourceFile) : Detection → Except MatcherError (List Finding)
  | .naming construct p => .ok (Check.misnamed source construct p)
  | .pattern p exception target => .ok (Check.matchingLines source p exception target)
  | .keywords _ matcher exception target =>
    .ok (Check.matchingLines source matcher exception target)
  | .structural check => check.findings source

namespace Matcher

/-- The matchers in the order in which they are asked. -/
def all : List Matcher := [.naming, .pattern, .structural, .formatting]

def name : Matcher → String
  | .naming => "naming"
  | .pattern => "pattern"
  | .structural => "structure"
  | .formatting => "formatting"

def description : Matcher → String
  | .naming => "Checks declared identifiers against per-construct casing patterns"
  | .pattern => "Flags lines matching a forbidden pattern or keyword"
  | .structural => "Include guards, function size, documentation and constructor checks"
  | .formatting => "Line length, trailing whitespace and tab indentation"

/-- The matcher evaluates rules with this detection. -/
def handles : Matcher → Detection → Bool
  | .naming, .naming .. => true
  | .pattern, .pattern .. => true
  | .pattern, .keywords .. => true
  | .structural, .structural .includeGuard => true
  | .structural, .structural (.functionLength _) => true
  | .structural, .structural (.functionParameters _) => true
  | .structural, .structural .functionComments => true
  | .structural, .structural .explicitConstructors => true
  | .formatting, .structural (.lineLength _) => true
  | .formatting, .structural .trailingWhitespace => true
  | .formatting, .structural .tabIndentation => true
  | _, _ => false

/-- The violations of a rule in a file. -/
def check (m : Matcher) (file : CheckedFile) (rule : Rule) : Except MatcherError (List Violation) :=
  if m.handles rule.detection then
    (rule.detection.findings file.source).map fun found => found.map (·.violation file rule)
  else .error (.unsupported m.name rule.detection.kind)

end Matcher

end Guideline
