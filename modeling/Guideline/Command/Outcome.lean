import Guideline.Change.Scope
import Guideline.Command.Configuration
import Guideline.Command.PullRequest
import Guideline.Glob
import Guideline.Ignore.Walk

/-!
# Outcomes of runs

A run depends on what surrounds it: the files, the user's configuration, and what other programs
would answer. It prints and writes as it goes on, and may fail on the way. It ends with an exit code,
what it has printed, and the files as it leaves them.
-/

namespace Guideline.Command

open Change

/-- What the version-control program prints and how it ends. -/
structure GitReply where
  stdout : String := ""
  stderr : String := ""
  exit : UInt8 := 0
deriving DecidableEq, Repr

/-- What surrounds a run. -/
structure Surroundings where
  tree : FileTree
  /-- The path of the user's own configuration file, where nothing need stand. -/
  userConfig : Option String := none
  /-- The answer of the version-control program, if there is such a program. -/
  git : Option GitReply := none
  /-- The files that a pull request leaves changed, if they can be asked for. -/
  pullRequestFiles : PullRequest → Option (List String) := fun _ => none

/-- Why a run fails. -/
inductive Failure where
  | usage
  | config (cause : ConfigError)
  | scope (cause : ScopeError)
  | walk (cause : Ignore.WalkError)
  | exclude (cause : GlobError)
  | report (path : String) (cause : FileError)
  | configExists (path : String)
  | configWrite (path : String) (cause : FileError)
deriving DecidableEq, Repr

/-- The message on a failure, with the causes behind it. -/
def Failure.message : Failure → String
  | .usage => "Invalid arguments"
  | .config cause => cause.message
  | .scope cause =>
    let again := match cause with
      | .unavailable reason => ": " ++ reason
      | .resolution _ _ => ""
    s!"Failed to compute change scope: {cause.message}{again}"
  | .walk cause => s!"Failed to walk source tree: {cause.message}"
  | .exclude cause => s!"Failed to build analyzer: {cause.excludeMessage}: {cause.message}"
  | .report path cause => s!"Failed to write report to {path}: {cause.message}"
  | .configExists path =>
    s!"Configuration file already exists at {path}. Use --force to overwrite."
  | .configWrite path cause => s!"Failed to write {path}: {cause.message}"

/-- How a run ends. -/
structure Outcome where
  exit : Nat
  stdout : String := ""
  failure : Option Failure := none
  /-- The files after the run. -/
  tree : FileTree
  /-- The arguments that the version-control program was run with. -/
  gitArguments : Option (List String) := none

/-- How far a run has come. -/
structure Progress where
  /-- What surrounds it at this point. -/
  now : Surroundings
  /-- What it has printed. -/
  stdout : String := ""
  gitArguments : Option (List String) := none

/-- A part of a run, which may fail. What is done before it fails stays done. -/
abbrev RunM := ExceptT Failure (StateM Progress)

namespace RunM

def surroundings : RunM Surroundings :=
  return (← get).now

def print (text : String) : RunM Unit :=
  modify fun p => { p with stdout := p.stdout ++ text }

/-- Writes a text to the file at a path. -/
def writeFile (path text : String) (failure : FileError → Failure) : RunM Unit := do
  let p ← get
  let tree ← MonadExcept.ofExcept ((p.now.tree.writeText path text.toList).mapError failure)
  set { p with now := { p.now with tree } }

/-- Notes with which arguments the version-control program is run. -/
def noteGit (arguments : Option (List String)) : RunM Unit :=
  modify fun p => { p with gitArguments := arguments }

/-- The outcome of a run that gives its exit code. A run that fails exits with 2. -/
def outcome (run : RunM Nat) (s : Surroundings) : Outcome :=
  match ExceptT.run run { now := s } with
  | (.ok exit, p) =>
    { exit, stdout := p.stdout, tree := p.now.tree, gitArguments := p.gitArguments }
  | (.error failure, p) =>
    { exit := 2, stdout := p.stdout, failure := some failure, tree := p.now.tree,
      gitArguments := p.gitArguments }

end RunM

end Guideline.Command
