import Guideline.Command.Arguments
import Guideline.Command.Outcome
import Guideline.Report.Format
import Guideline.Review.Reviewer

/-!
# The check command

A check loads the configuration, computes what to restrict the report to, finds the files, reviews
them and emits the report.
-/

namespace Guideline.Command

open Change

/-- The arguments that ask the version-control program for a diff. -/
def gitArguments (target : DiffTarget) : List String :=
  ["diff", "-U0", "--no-color", "--no-ext-diff", "--relative",
    match target with
    | .ref name => s!"{name}...HEAD"
    | .staged => "--cached"]

/-- The diff that the version-control program answers with. -/
def gitDiff (git : Option GitReply) (target : DiffTarget) : Except ScopeError String :=
  match git with
  | none => .error (.unavailable FileError.notFound.message)
  | some reply =>
    if reply.exit = 0 then .ok reply.stdout
    else .error (.resolution target.name (String.ofList (Text.trim reply.stderr.toList)))

/-- What the report is restricted to. -/
def restrictedScope (s : Surroundings) : Restriction → Except ScopeError ChangeScope
  | .everything => computeScope .unscoped (gitDiff s.git)
  | .changes target => computeScope (.changes target) (gitDiff s.git)
  | .pullRequest pr =>
    match s.pullRequestFiles pr with
    | some files => computeScope (.files files) (gitDiff s.git)
    | none => .error (.resolution pr.display "the files of a pull request are not at hand")

namespace CheckRequest

/-- What the report is restricted to: nothing if that cannot be computed and the request allows
it. -/
def scope (r : CheckRequest) (s : Surroundings) : Except Failure ChangeScope :=
  match restrictedScope s r.restriction with
  | .ok scope => .ok scope
  | .error cause => if r.fallbackFull then .ok .unscoped else .error (.scope cause)

/-- The arguments that the version-control program is run with, if it is run. -/
def gitArguments? (r : CheckRequest) (git : Option GitReply) : Option (List String) :=
  match r.restriction, git with
  | .changes target, some _ => some (gitArguments target)
  | _, _ => none

/-- The files of a scope that are there and lie under one of the paths. -/
def scopedFiles (r : CheckRequest) (tree : FileTree) (files : List String) : List String :=
  let roots := r.paths.map Path.normalComponents
  files.filter fun file =>
    tree.isFile file && roots.any fun root => Path.isUnder root (Path.normalComponents file)

/-- The files to review. -/
def files (r : CheckRequest) (s : Surroundings) (scope : ChangeScope) :
    Except Failure (List String) :=
  match scope.files? with
  | some listed => .ok (r.scopedFiles s.tree listed)
  | none => (Ignore.discover s.tree r.paths).mapError .walk

/-- The settings of the check. -/
def settings (r : CheckRequest) (c : Configuration) : Settings :=
  if r.failOnWarnings then { c.settings with failOn := some .warning } else c.settings

/-- Reviews the files that the request is about. -/
def review (r : CheckRequest) (s : Surroundings) (c : Configuration) :
    Except Failure ReviewResult := do
  let scope ← r.scope s
  let files ← r.files s scope
  let reviewer : Reviewer := { rules := c.rules, settings := r.settings c, scope }
  let reviewer ← (reviewer.withExcludes r.exclude).mapError .exclude
  return reviewer.review s.tree files

/-- The report as it is emitted: it ends with a line feed. -/
def report (r : CheckRequest) (result : ReviewResult) : String :=
  let text := result.render r.format
  if Text.endsWithChar '\n' text.toList then text else text ++ "\n"

/-- Emits the report to the file that the request names, or prints it. -/
def emit (r : CheckRequest) (result : ReviewResult) : RunM Unit :=
  match r.output with
  | none => RunM.print (r.report result)
  | some path => RunM.writeFile path (r.report result) (.report path)

/-- Reviews with the configuration at `config`, or the one it finds, and emits the report. The exit
code is 1 if a violation is severe enough. -/
def run (r : CheckRequest) (config : Option String) : RunM Nat := do
  let s ← RunM.surroundings
  let c ← MonadExcept.ofExcept ((Configuration.load s.tree s.userConfig config).mapError .config)
  RunM.noteGit (r.gitArguments? s.git)
  let result ← MonadExcept.ofExcept (r.review s c)
  r.emit result
  return if result.failsAt (r.settings c).threshold then 1 else 0

end CheckRequest

end Guideline.Command
