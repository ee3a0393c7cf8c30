import Guideline.Settings

/-!
# Configurations

The rules and settings of a run come from one document: the file that the arguments name, else a
file of the project, else the user's own file. Without any the built-in rules and settings count.
-/

namespace Guideline.Command

/-- Where the configuration of a run comes from. -/
inductive Origin where
  | explicit
  | project
  | user
  | builtin
deriving DecidableEq, Repr

def Origin.label : Origin → String
  | .explicit => "explicit"
  | .project => "project"
  | .user => "global"
  | .builtin => "built-in"

/-- A document as it is found: its path, and its text unless it cannot be read. -/
structure FoundDocument where
  path : String
  text : Except FileError (List Char)

/-- The files that a project may keep its configuration in. -/
def projectFiles : List String :=
  ["./guidelint.toml", "./.guidelint.toml"]

/-- Looks for the configuration of a run: first the file that is named, then those of the project,
then the user's. -/
def lookUp (tree : FileTree) (user named : Option String) : Origin × Option FoundDocument :=
  match named, projectFiles.find? tree.isPresent, user.filter tree.isPresent with
  | some path, _, _ => (.explicit, some ⟨path, tree.readText path⟩)
  | none, some path, _ => (.project, some ⟨path, tree.readText path⟩)
  | none, none, some path => (.user, some ⟨path, tree.readText path⟩)
  | none, none, none => (.builtin, none)

/-- The rules and settings of a run. -/
structure Configuration where
  origin : Origin
  rules : RuleSet
  settings : Settings

namespace Configuration

/-- Reads the rules of a document and then its settings. -/
def ofDocument (origin : Origin) (d : FoundDocument) : Except ConfigError Configuration := do
  let cs ← d.text.mapError (.unreadable d.path)
  let format := Document.Format.ofPath d.path
  let rules ← (RuleSet.read format cs).mapError .document
  let settings ← (Settings.read format cs).mapError .document
  return { origin, rules, settings }

/-- The configuration without a document. -/
def builtin : Except ConfigError Configuration := do
  let rules ← RuleSet.builtin.mapError fun e => .document (.rules e)
  return { origin := .builtin, rules, settings := {} }

/-- Finds and reads the configuration of a run. -/
def load (tree : FileTree) (user named : Option String) : Except ConfigError Configuration :=
  match lookUp tree user named with
  | (origin, some document) => ofDocument origin document
  | (_, none) => builtin

end Configuration

end Guideline.Command
