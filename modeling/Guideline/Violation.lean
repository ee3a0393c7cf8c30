import Guideline.Text.Blank

/-!
# Violations

A violation is one breach of a rule at a line of a file, with everything that reports say about it.
-/

namespace Guideline

/-- How much a violation weighs, from advice to what blocks a change. -/
inductive Severity where
  | info
  | warning
  | error
deriving DecidableEq, Repr

namespace Severity

def rank : Severity → Nat
  | .info => 0
  | .warning => 1
  | .error => 2

/-- `s` is as severe as `t` or more. -/
def atLeast (s t : Severity) : Bool :=
  t.rank ≤ s.rank

def name : Severity → String
  | .info => "info"
  | .warning => "warning"
  | .error => "error"

def ofName? (name : String) : Option Severity :=
  [.error, .warning, .info].find? (·.name = name)

end Severity

/-- What a rule is about; it decides where reports put its hints. -/
inductive Category where
  | naming
  | bestPractice
  | structural
  | formatting
deriving DecidableEq, Repr

namespace Category

/-- The categories in the order of listings. -/
def all : List Category := [.naming, .bestPractice, .structural, .formatting]

def name : Category → String
  | .naming => "naming"
  | .bestPractice => "best_practice"
  | .structural => "structure"
  | .formatting => "formatting"

def ofName? (name : String) : Option Category :=
  all.find? (·.name = name)

end Category

structure Violation where
  rule : String
  description : String
  filePath : String
  line : Nat
  /-- An excerpt of the line. -/
  lineContent : String
  severity : Severity
  suggestion : String
  category : Category
deriving DecidableEq, Repr

namespace Violation

/-- The violation on one line. -/
def compact (v : Violation) : String :=
  s!"{v.filePath}:{v.line}: {v.severity.name} [{v.rule}] {v.description}"

/-- The order of reports: by file, then line, then rule. -/
def reportOrder (a b : Violation) : Ordering :=
  (compare a.filePath b.filePath).then ((compare a.line b.line).then (compare a.rule b.rule))

/-- Sorts violations for a report; violations that compare equal keep their order. -/
def sortForReport (vs : List Violation) : List Violation :=
  vs.mergeSort fun a b => (a.reportOrder b).isLE

end Violation

/-- The number of characters that an excerpt keeps of a line. -/
def excerptLimit : Nat := 120

/-- The line without blanks around it, cut after `excerptLimit` characters. -/
def excerpt (line : List Char) : String :=
  let trimmed := Text.trim line
  if trimmed.length ≤ excerptLimit then String.ofList trimmed
  else String.ofList (trimmed.take excerptLimit ++ "...".toList)

end Guideline
