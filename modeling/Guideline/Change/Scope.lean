import Guideline.Change.Diff

/-!
# Change scopes

A change scope restricts a report to the files and lines that a change touches. It comes from a
unified diff, from a list of files, or is no restriction at all.
-/

namespace Guideline.Change

/-- The lines of one file that are in scope. -/
inductive LineSelection where
  | every
  | only (lines : List Nat)
deriving DecidableEq, Repr

namespace LineSelection

def contains : LineSelection → Nat → Bool
  | .every, _ => true
  | .only lines, line => lines.contains line

def isEmpty : LineSelection → Bool
  | .every => false
  | .only lines => lines.isEmpty

end LineSelection

/-- What a report is restricted to. -/
inductive ChangeScope where
  | unscoped
  /-- The listed files, by their components and in order, and the selected lines of each. -/
  | scoped (files : List (List Path.Component × LineSelection))
deriving DecidableEq, Repr

namespace ChangeScope

/-- All lines of the given files. -/
def ofFiles (files : List String) : ChangeScope :=
  .scoped (Collection.ofEntries Path.cmpComponents
    (files.map fun p => (Path.normalComponents p, .every)))

/-- The given lines of each file. -/
def ofLines (files : ChangedLines) : ChangeScope :=
  .scoped (Collection.ofEntries Path.cmpComponents
    (files.map fun (p, lines) => (Path.normalComponents p, .only lines)))

def isScoped : ChangeScope → Bool
  | .unscoped => false
  | .scoped _ => true

/-- The selection for a file, if it is listed. -/
def selection? (files : List (List Path.Component × LineSelection)) (path : String) :
    Option LineSelection :=
  Collection.find? (Path.normalComponents path) files

/-- The line of the file is in scope. -/
def contains (scope : ChangeScope) (path : String) (line : Nat) : Bool :=
  match scope with
  | .unscoped => true
  | .scoped files => (selection? files path).any (·.contains line)

/-- Some line of the file is in scope. -/
def coversFile (scope : ChangeScope) (path : String) : Bool :=
  match scope with
  | .unscoped => true
  | .scoped files => (selection? files path).any (!·.isEmpty)

/-- The listed files, in order. -/
def files? : ChangeScope → Option (List String)
  | .unscoped => none
  | .scoped files => some (files.map fun (p, _) => Path.ofComponents p)

end ChangeScope

/-- What a version-control tool is asked to compare. -/
inductive DiffTarget where
  /-- The changes since the branch left this reference. -/
  | ref (name : String)
  /-- The staged changes. -/
  | staged
deriving DecidableEq, Repr

def DiffTarget.name : DiffTarget → String
  | .ref name => name
  | .staged => "staged changes"

/-- Why a change scope cannot be computed. -/
inductive ScopeError where
  /-- The reference cannot be resolved. -/
  | resolution (reference reason : String)
  /-- The version-control tool cannot be run. -/
  | unavailable (reason : String)
deriving DecidableEq, Repr

def ScopeError.message : ScopeError → String
  | .resolution reference reason => s!"cannot resolve `{reference}`: {reason}"
  | .unavailable reason => s!"failed to run version control: {reason}"

/-- How a run is scoped. -/
inductive ScopeMode where
  | unscoped
  | changes (target : DiffTarget)
  | files (paths : List String)
deriving DecidableEq, Repr

/-- Computes the scope of a run, where `diff` answers with unified diffs. -/
def computeScope (mode : ScopeMode) (diff : DiffTarget → Except ScopeError String) :
    Except ScopeError ChangeScope :=
  match mode with
  | .unscoped => .ok .unscoped
  | .files paths => .ok (.ofFiles paths)
  | .changes target => (diff target).map fun text => .ofLines (parseDiff text.toList)

end Guideline.Change
