import Guideline.Document.Json
import Guideline.Document.Toml
import Guideline.Path
import Guideline.Rule.Basic

/-!
# Rule definitions

A rule document holds definitions, which are rules as written and not yet checked, and changes to
rules that are defined elsewhere.
-/

namespace Guideline

namespace Document

/-- The format of the document in a file, by the name of the file. -/
def Format.ofPath (path : String) : Format :=
  match Path.extension? path with
  | some extension => if extension.toLower = "json" then .json else .toml
  | none => .toml

/-- Reads a document. -/
def read? (format : Format) (cs : List Char) : Option Value :=
  match format with
  | .toml => Toml.read? cs
  | .json => Json.read? cs

end Document

open Document

structure Definition where
  id : String
  category : String
  description : String
  severity : String
  suggestion : Option String := none
  appliesTo : Option String := none
  construct : Option String := none
  pattern : Option String := none
  keywords : Option (List String) := none
  check : Option String := none
  max : Option Nat := none
  exception : Option String := none
  target : Option String := none
  examples : List Example := []
deriving DecidableEq, Repr

/-- A change to a rule; what is missing stays as it is. -/
structure Override where
  enabled : Option Bool := none
  severity : Option String := none
  max : Option Nat := none
  pattern : Option String := none
  suggestion : Option String := none
deriving DecidableEq, Repr

/-- The definition with the changes made. -/
def Override.apply (o : Override) (d : Definition) : Definition :=
  { d with
    severity := o.severity.getD d.severity
    max := o.max <|> d.max
    pattern := o.pattern <|> d.pattern
    suggestion := o.suggestion <|> d.suggestion }

structure RuleDocument where
  /-- The name of the rules to start from. -/
  base : Option String := none
  definitions : List Definition := []
  /-- Changes by rule identifier, in the order of identifiers. -/
  overrides : List (String × Override) := []
deriving DecidableEq, Repr

def Example.read? (format : Format) (v : Value) : Option Example := do
  let fields ← v.record? format ["good", "bad"]
  let good ← required Value.text? "good" fields
  let bad ← required Value.text? "bad" fields
  return { good, bad }

def Definition.fieldNames : List String :=
  ["id", "category", "description", "severity", "suggestion", "applies_to", "construct", "pattern",
    "keywords", "check", "max", "unless", "match_on", "examples"]

def Definition.read? (format : Format) (v : Value) : Option Definition := do
  let fields ← v.record? format fieldNames
  return {
    id := ← required Value.text? "id" fields
    category := ← required Value.text? "category" fields
    description := ← required Value.text? "description" fields
    severity := ← required Value.text? "severity" fields
    suggestion := ← optional Value.text? "suggestion" fields
    appliesTo := ← optional Value.text? "applies_to" fields
    construct := ← optional Value.text? "construct" fields
    pattern := ← optional Value.text? "pattern" fields
    keywords := ← optional (Value.list? Value.text?) "keywords" fields
    check := ← optional Value.text? "check" fields
    max := ← optional Value.count? "max" fields
    exception := ← optional Value.text? "unless" fields
    target := ← optional Value.text? "match_on" fields
    examples := ← withDefault [] (Value.list? (Example.read? format)) "examples" fields }

def Override.read? (format : Format) (v : Value) : Option Override := do
  let fields ← v.record? format ["enabled", "severity", "max", "pattern", "suggestion"]
  return {
    enabled := ← optional Value.bool? "enabled" fields
    severity := ← optional Value.text? "severity" fields
    max := ← optional Value.count? "max" fields
    pattern := ← optional Value.text? "pattern" fields
    suggestion := ← optional Value.text? "suggestion" fields }

/-- Reads the rules of a document. The settings that it may also hold are passed over. -/
def RuleDocument.read? (format : Format) (cs : List Char) : Option RuleDocument := do
  let fields ← (← Document.read? format cs).record? format
    ["base", "rule", "rules", "fail_on", "analyzer"]
  return {
    base := ← optional Value.text? "base" fields
    definitions := ← withDefault [] (Value.list? (Definition.read? format)) "rule" fields
    overrides := ← withDefault [] (Value.map? (Override.read? format)) "rules" fields }

end Guideline
