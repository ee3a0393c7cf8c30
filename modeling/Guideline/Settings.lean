import Guideline.FileTree
import Guideline.Rule.Set

/-!
# Settings

What a run of checks is told beside the rules: which files count, and when the run fails. Settings
stand in the same documents as rules.
-/

namespace Guideline

open Document

structure Settings where
  /-- The least severity at which a run fails, if it is set. -/
  failOn : Option Severity := none
  /-- The extensions of files to check, in lower case. -/
  extensions : List String := ["cpp", "cc", "cxx", "c", "h", "hpp", "hxx", "hh"]
  /-- The extensions of headers, in lower case. -/
  headerExtensions : List String := ["h", "hpp", "hxx", "hh"]
  /-- Globs of paths to leave out. -/
  exclude : List String := ["**/build/**", "**/third_party/**"]
  workers : Option Nat := none
  /-- Keep only the most severe violation of a line. -/
  dedupeSameLine : Bool := false
deriving DecidableEq, Repr

namespace Settings

/-- The least severity at which a run fails. -/
def threshold (s : Settings) : Severity :=
  s.failOn.getD .error

/-- The kind of a file by its extension; `none` for files that are not checked. -/
def classify (s : Settings) (path : String) : Option FileKind :=
  match Path.extension? path with
  | none => none
  | some extension =>
    let lower := extension.toLower
    if s.headerExtensions.contains lower then some .header
    else if s.extensions.contains lower then some .source
    else none

/-- A severity: its name, or a table from its name to nothing. -/
def severity? (format : Format) (v : Value) : Option Severity :=
  match v with
  | .text name => Severity.ofName? name
  | .table [(name, content)] =>
    let isNothing := match format, content with
      | .json, .null | .toml, .table [] | .toml, .list [] => true
      | _, _ => false
    if isNothing then Severity.ofName? name else none
  | _ => none

/-- Reads the part of the settings on which files are checked and how. -/
def readAnalyzer? (format : Format) (s : Settings) (v : Value) : Option Settings := do
  let fields ← v.record? format
    ["extensions", "header_extensions", "exclude", "workers", "dedupe_same_line"]
  let texts := Value.list? Value.text?
  return { s with
    extensions := ← withDefault s.extensions texts "extensions" fields
    headerExtensions := ← withDefault s.headerExtensions texts "header_extensions" fields
    exclude := ← withDefault s.exclude texts "exclude" fields
    workers := ← optional Value.count? "workers" fields
    dedupeSameLine := ← withDefault s.dedupeSameLine Value.bool? "dedupe_same_line" fields }

/-- Reads the settings of a document. The rules that it may also hold are passed over. -/
def read? (format : Format) (cs : List Char) : Option Settings := do
  let fields ← (← Document.read? format cs).record? format
    ["fail_on", "analyzer", "base", "rule", "rules"]
  let failOn ← optional (severity? format) "fail_on" fields
  withDefault { failOn } (readAnalyzer? format { failOn }) "analyzer" fields

/-- Reads the settings of a document. -/
def read (format : Format) (cs : List Char) : Except DocumentError Settings :=
  match read? format cs with
  | some settings => .ok settings
  | none => .error .malformed

end Settings

/-- Why the document in a file cannot be used. -/
inductive ConfigError where
  | unreadable (path : String) (cause : FileError)
  | document (cause : DocumentError)
deriving DecidableEq, Repr

/-- The message on a document; of a text that is no document of its format it only says so. -/
def ConfigError.message : ConfigError → String
  | .unreadable path cause => s!"Failed to read config file {path}: {cause.message}"
  | .document .malformed => "Failed to parse config"
  | .document (.rules cause) => s!"Invalid rule set: {cause.message}"

/-- Reads the settings of the document in a file. -/
def Settings.ofFile (tree : FileTree) (path : String) : Except ConfigError Settings := do
  let cs ← (tree.readText path).mapError (.unreadable path)
  (read (Format.ofPath path) cs).mapError .document

end Guideline
