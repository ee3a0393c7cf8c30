import Guideline.Rule.Definition
import Guideline.Rule.Id

/-!
# From definitions to rules

A definition becomes a rule if every field holds what it may hold, and if it says in exactly one way
what to look for. The first fault in the order of the checks is reported.
-/

namespace Guideline

/-- Why a rule document makes no rule set. -/
inductive RuleError where
  /-- A field of a rule is no rule identifier. -/
  | id (rule : String) (cause : RuleIdError)
  /-- A field of a rule makes no pattern. -/
  | pattern (rule field : String) (cause : PatternError)
  | unknownSeverity (rule value : String)
  | unknownValue (rule field value : String) (expected : List String)
  /-- A rule does not look for exactly one thing. -/
  | ambiguousDetection (rule : String)
  | missingLimit (rule check : String)
  | inconsistent (rule reason : String)
  | duplicateRule (rule : String)
  | unknownOverride (rule : String)
  | unknownBase (value : String)
deriving DecidableEq, Repr

def RuleError.message : RuleError → String
  | .id rule cause => s!"rule '{rule}'.id: {cause.message}"
  | .pattern rule field cause => s!"rule '{rule}'.{field}: {cause.message}"
  | .unknownSeverity rule value =>
    s!"rule '{rule}': unknown severity `{value}`, expected: error, warning, info"
  | .unknownValue rule field value expected =>
    s!"rule '{rule}': unknown {field} `{value}`, expected: " ++ ", ".intercalate expected
  | .ambiguousDetection rule =>
    s!"rule '{rule}': exactly one of `pattern`, `keywords` or `check` must be set"
  | .missingLimit rule check => s!"rule '{rule}': check `{check}` requires `max`"
  | .inconsistent rule reason => s!"rule '{rule}': {reason}"
  | .duplicateRule rule => s!"rule '{rule}' is defined more than once"
  | .unknownOverride rule => s!"override for unknown rule '{rule}'"
  | .unknownBase value => s!"unknown base `{value}`, expected: default, empty"

/-- A structural check by name: it is complete, or waits for a limit. -/
inductive CheckShape where
  | plain (check : StructuralCheck)
  | limited (check : Nat → StructuralCheck)

/-- The structural checks, in the order of messages. -/
def checkShapes : List (String × CheckShape) :=
  [("include_guard", .plain .includeGuard),
    ("function_length", .limited .functionLength),
    ("function_parameters", .limited .functionParameters),
    ("function_comments", .plain .functionComments),
    ("explicit_constructors", .plain .explicitConstructors),
    ("line_length", .limited .lineLength),
    ("trailing_whitespace", .plain .trailingWhitespace),
    ("tab_indentation", .plain .tabIndentation),
    ("unreadable_file", .plain .unreadableFile),
    ("matcher_failure", .plain .matcherFailure)]

namespace Definition

/-- The value of a field that is found by name in a vocabulary. -/
def vocabulary {α : Type} (d : Definition) (field : String) (expected : List String)
    (ofName? : String → Option α) (value : String) : Except RuleError α :=
  match ofName? value with
  | some a => .ok a
  | none => .error (.unknownValue d.id field value expected)

/-- The pattern of a field. -/
def compile (d : Definition) (field source : String) : Except RuleError Pattern :=
  (Pattern.ofSource source).mapError (.pattern d.id field)

/-- The structural check of a definition. -/
def structuralCheck (d : Definition) (name : String) : Except RuleError StructuralCheck :=
  match Collection.find? name checkShapes, d.max with
  | some (.plain check), none => .ok check
  | some (.plain _), some _ => .error (.inconsistent d.id s!"check `{name}` does not take `max`")
  | some (.limited check), some max => .ok (check max)
  | some (.limited _), none => .error (.missingLimit d.id name)
  | none, _ => .error (.unknownValue d.id "check" name (checkShapes.map (·.1)))

def matchTarget (d : Definition) : Except RuleError MatchTarget :=
  match d.target with
  | none => .ok .code
  | some value =>
    d.vocabulary "match_on" ["code", "raw"]
      (fun name => Collection.find? name [("code", .code), ("raw", .raw)]) value

/-- The detection by a pattern: of names if there is a construct, else of lines. -/
def patternDetection (d : Definition) (source : String) (exception : Option Pattern)
    (target : MatchTarget) : Except RuleError Detection := do
  let pattern ← d.compile "pattern" source
  match d.construct with
  | none => return .pattern pattern exception target
  | some name =>
    if exception.isSome || d.target.isSome then
      throw (.inconsistent d.id "naming rules accept neither `unless` nor `match_on`")
    let construct ←
      d.vocabulary "construct" (Construct.all.map Construct.name) Construct.ofName? name
    return .naming construct pattern

def keywordDetection (d : Definition) (keywords : List String) (exception : Option Pattern)
    (target : MatchTarget) : Except RuleError Detection := do
  let matcher ← (Pattern.ofKeywords keywords).mapError (.pattern d.id "keywords")
  let trimmed := keywords.map fun k => String.ofList (Text.trim k.toList)
  return .keywords trimmed matcher exception target

/-- The detection by lines or names. -/
def textDetection (d : Definition) : Except RuleError Detection := do
  let target ← d.matchTarget
  let exception ← d.exception.mapM (d.compile "unless")
  match d.keywords with
  | some keywords => d.keywordDetection keywords exception target
  | none => d.patternDetection (d.pattern.getD "") exception target

/-- How many of the ways to look for something are given. -/
def detectionCount (d : Definition) : Nat :=
  [d.pattern.isSome, d.keywords.isSome, d.check.isSome].count true

def detection (d : Definition) : Except RuleError Detection :=
  if d.detectionCount ≠ 1 then .error (.ambiguousDetection d.id)
  else if d.construct.isSome && d.pattern.isNone then
    .error (.inconsistent d.id "`construct` requires `pattern`")
  else if d.max.isSome && d.check.isNone then
    .error (.inconsistent d.id "`max` is only valid with `check`")
  else
    match d.check with
    | none => d.textDetection
    | some name =>
      if d.exception.isSome || d.target.isSome then
        .error (.inconsistent d.id
          "`unless` and `match_on` are only valid with `pattern` or `keywords`")
      else (d.structuralCheck name).map .structural

/-- The rule that a definition makes. -/
def rule (d : Definition) : Except RuleError Rule := do
  (checkRuleId d.id).mapError (.id d.id)
  let category ←
    d.vocabulary "category" (Category.all.map Category.name) Category.ofName? d.category
  let severity ← match Severity.ofName? d.severity with
    | some severity => pure severity
    | none => throw (.unknownSeverity d.id d.severity)
  let appliesTo ← match d.appliesTo with
    | none => pure .all
    | some value =>
      d.vocabulary "applies_to" ["all", "headers", "sources"] AppliesTo.ofName? value
  let detection ← d.detection
  return {
    id := d.id
    category
    description := d.description
    severity
    suggestion := d.suggestion
    appliesTo
    detection
    examples := d.examples }

end Definition

end Guideline
