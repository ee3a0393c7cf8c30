import Guideline.Rule.Builtin
import Guideline.Rule.Validation

/-!
# Rule sets

A rule set is made from the rules to start from and a document on top of them. A definition of the
document replaces one with the same identifier, then the changes are made, then the rules that are
switched off go, and what is left is checked.
-/

namespace Guideline

/-- The identifier of the note on a file that cannot be read. -/
def unreadableFileId : String := "unreadable_file"

/-- The identifier of the note on a rule that cannot be evaluated. -/
def matcherFailureId : String := "matcher_failure"

/-- The definitions of the notes on files. -/
def noteDefinitions : List Definition :=
  [{ id := unreadableFileId
     category := "structure"
     description := "File could not be read as text and was skipped"
     severity := "info"
     check := some "unreadable_file" },
    { id := matcherFailureId
      category := "structure"
      description := "A rule could not be evaluated for this file and was skipped"
      severity := "info"
      check := some "matcher_failure" }]

namespace Definition

/-- Puts a definition in the place of the one with its identifier, or at the end. -/
def replaceIn (d : Definition) : List Definition → List Definition
  | [] => [d]
  | e :: rest => if e.id = d.id then d :: rest else e :: replaceIn d rest

/-- Adds a definition at the end, unless there is one with its identifier. -/
def addMissing (ds : List Definition) (d : Definition) : List Definition :=
  if ds.any (·.id = d.id) then ds else ds ++ [d]

/-- The definition after the changes made under its identifier. -/
def changed (overrides : List (String × Override)) (d : Definition) : Definition :=
  match Collection.find? d.id overrides with
  | some o => o.apply d
  | none => d

/-- The changes under the identifier switch the rule off. -/
def isDisabled (overrides : List (String × Override)) (d : Definition) : Bool :=
  match Collection.find? d.id overrides with
  | some o => o.enabled == some false
  | none => false

/-- The first identifier that stands twice, where it stands the second time. -/
def firstDuplicate (seen : List String) : List Definition → Option String
  | [] => none
  | d :: rest => if seen.contains d.id then some d.id else firstDuplicate (d.id :: seen) rest

end Definition

/-- The rules of a run, in the order of their identifiers. -/
structure RuleSet where
  rules : List Rule
deriving DecidableEq, Repr

namespace RuleSet

/-- The set of the given rules; the last of rules with one identifier counts. -/
def ofRules (rules : List Rule) : RuleSet :=
  ⟨(Collection.ofEntries compare (rules.map fun r => (r.id, r))).map (·.2)⟩

def find? (s : RuleSet) (id : String) : Option Rule :=
  s.rules.find? (·.id = id)

def size (s : RuleSet) : Nat :=
  s.rules.length

/-- The rules to look for in a file; notes are not looked for. -/
def rulesFor (s : RuleSet) (kind : FileKind) : List Rule :=
  s.rules.filter fun r => r.appliesTo.covers kind && !r.detection.isNote

/-- The definitions of a document on top of those of its base, with the notes. -/
def merge (base definitions : List Definition) : List Definition :=
  noteDefinitions.foldl Definition.addMissing (definitions.foldl (fun ds d => d.replaceIn ds) base)

/-- The rule set of a document whose base has the given definitions. -/
def load (doc : RuleDocument) (base : List Definition) : Except RuleError RuleSet := do
  if let some id := Definition.firstDuplicate [] doc.definitions then throw (.duplicateRule id)
  let merged := merge base doc.definitions
  if let some (id, _) := doc.overrides.find? fun (id, _) => !merged.any (·.id = id) then
    throw (.unknownOverride id)
  let enabled := merged.filter fun d => !d.isDisabled doc.overrides
  let rules ← enabled.mapM fun d => (d.changed doc.overrides).rule
  return ofRules rules

end RuleSet

/-- The definitions that a document starts from. -/
def RuleDocument.baseDefinitions (doc : RuleDocument) : Except RuleError (List Definition) :=
  match doc.base with
  | none => .ok Builtin.definitions
  | some name =>
    if name = "default" then .ok Builtin.definitions
    else if name = "empty" then .ok []
    else .error (.unknownBase name)

/-- The rule set of a document. -/
def RuleDocument.ruleSet (doc : RuleDocument) : Except RuleError RuleSet := do
  RuleSet.load doc (← doc.baseDefinitions)

/-- The rule set without a document. -/
def RuleSet.builtin : Except RuleError RuleSet :=
  RuleSet.load {} Builtin.definitions

/-- Why a document cannot be used. -/
inductive DocumentError where
  /-- It is no text of its format, or has other fields than documents have. -/
  | malformed
  | rules (cause : RuleError)
deriving DecidableEq, Repr

/-- Reads a rule set from the text of a document. -/
def RuleSet.read (format : Document.Format) (cs : List Char) : Except DocumentError RuleSet :=
  match RuleDocument.read? format cs with
  | none => .error .malformed
  | some doc => doc.ruleSet.mapError .rules

end Guideline
