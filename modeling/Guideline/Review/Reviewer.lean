import Guideline.Allowance
import Guideline.Change.Scope
import Guideline.Check.Matcher
import Guideline.Glob
import Guideline.Review.Result
import Guideline.Settings

/-!
# Reviewing files

A reviewer looks for the violations of its rules in files, leaves out those that comments allow and
those out of scope, and goes on with a note where a file cannot be read or a rule cannot be
evaluated.
-/

namespace Guideline

open Change

structure Reviewer where
  rules : RuleSet
  matchers : List Matcher := Matcher.all
  settings : Settings := {}
  scope : ChangeScope := .unscoped
  /-- The globs of files to leave out. -/
  exclude : List Glob := []

namespace Reviewer

/-- Adds the globs to leave out: those given first, then those of the settings. -/
def withExcludes (r : Reviewer) (patterns : List String) : Except GlobError Reviewer := do
  let exclude ← (patterns ++ r.settings.exclude).mapM Glob.ofSource
  return { r with exclude }

/-- The violations of a rule in a file, or why it cannot be evaluated. -/
def checkRule (r : Reviewer) (file : CheckedFile) (rule : Rule) : Except String (List Violation) :=
  match r.matchers.find? (·.handles rule.detection) with
  | none =>
    .error s!"Rule '{rule.id}' skipped: no matcher for {rule.detection.kind} rules"
  | some m =>
    (m.check file rule).mapError fun e => s!"Rule '{rule.id}' skipped: {e.message}"

/-- A note on a file, unless the rules do not have it. -/
def note (r : Reviewer) (file : CheckedFile) (id reason : String) : List Violation :=
  match r.rules.find? id with
  | some rule => [Finding.violation ⟨1, some reason⟩ file rule]
  | none => []

/-- The violations of a rule in a file, or the note that it cannot be evaluated. -/
def ruleViolations (r : Reviewer) (file : CheckedFile) (rule : Rule) : List Violation :=
  match r.checkRule file rule with
  | .ok found => found
  | .error reason => r.note file matcherFailureId reason

def isNoteId (id : String) : Bool :=
  id = unreadableFileId || id = matcherFailureId

/-- The violation is in scope; notes are if any line of the file is. -/
def inScope (r : Reviewer) (path : String) (v : Violation) : Bool :=
  if isNoteId v.rule then r.scope.coversFile path else r.scope.contains path v.line

/-- All violations in a file, before any are left out. -/
def allViolations (r : Reviewer) (file : CheckedFile) : List Violation :=
  (r.rules.rulesFor file.kind).flatMap (r.ruleViolations file)

/-- The violations in a file that no comment allows and that are in scope. -/
def fileViolations (r : Reviewer) (file : CheckedFile) : List Violation :=
  let allowances := Allowances.scan file.source
  ((r.allViolations file).filter fun v => (allowances.check? v.line v.rule).isNone).filter
    (r.inScope file.path)

/-- Reviews a text as the content of a file. -/
def reviewText (r : Reviewer) (path : String) (kind : FileKind) (content : List Char) :
    List Violation :=
  Violation.sortForReport (r.fileViolations ⟨path, kind, .parse content⟩)

/-- Reviews a file that cannot be read. -/
def reviewUnreadable (r : Reviewer) (path : String) (kind : FileKind) (reason : String) :
    List Violation :=
  r.note ⟨path, kind, .parse []⟩ unreadableFileId reason

/-- A path is left out by a glob. -/
def isExcluded (r : Reviewer) (path : String) : Bool :=
  r.exclude.any (·.excludes (Path.display path).toList)

/-- The kind of a file, if it is to be reviewed. -/
def select? (r : Reviewer) (path : String) : Option FileKind :=
  match r.settings.classify path with
  | none => none
  | some kind => if r.isExcluded path || !r.scope.coversFile path then none else some kind

end Reviewer

/-- The text of a source file, without a byte order mark, or why it cannot be read. -/
def readSource (tree : FileTree) (path : String) : Except String (List Char) :=
  match tree.readBytes path with
  | .error e => .error s!"Could not read file: {e.message}"
  | .ok bytes =>
    if bytes.contains 0 then .error "File appears to be binary"
    else
      match Text.decode? bytes with
      | none => .error "File is not valid UTF-8 text"
      | some ('\ufeff' :: cs) => .ok cs
      | some cs => .ok cs

namespace Reviewer

def reviewFile (r : Reviewer) (tree : FileTree) (path : String) (kind : FileKind) :
    List Violation :=
  match readSource tree path with
  | .ok content => r.reviewText path kind content
  | .error reason => r.reviewUnreadable path kind reason

/-- Reviews the files at the given paths. -/
def review (r : Reviewer) (tree : FileTree) (paths : List String) : ReviewResult :=
  let selected := paths.filterMap fun path => (r.select? path).map (path, ·)
  let violations := Violation.sortForReport
    (selected.flatMap fun (path, kind) => r.reviewFile tree path kind)
  { violations := if r.settings.dedupeSameLine then dedupeSameLine violations else violations
    files := selected.length }

end Reviewer

end Guideline
