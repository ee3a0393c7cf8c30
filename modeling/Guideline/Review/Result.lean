import Guideline.Violation

/-!
# Results of a review
-/

namespace Guideline

/-- The number of violations of each severity. -/
structure Summary where
  errors : Nat
  warnings : Nat
  infos : Nat
deriving DecidableEq, Repr

namespace Summary

def ofViolations (vs : List Violation) : Summary :=
  let count := fun severity => vs.countP (·.severity = severity)
  { errors := count .error, warnings := count .warning, infos := count .info }

def total (s : Summary) : Nat :=
  s.errors + s.warnings + s.infos

/-- The highest severity that there is. -/
def worst? (s : Summary) : Option Severity :=
  if 0 < s.errors then some .error
  else if 0 < s.warnings then some .warning
  else if 0 < s.infos then some .info
  else none

end Summary

/-- What a review found. -/
@[ext]
structure ReviewResult where
  violations : List Violation
  /-- The number of files looked at. -/
  files : Nat
deriving DecidableEq, Repr

namespace ReviewResult

def summary (r : ReviewResult) : Summary :=
  .ofViolations r.violations

/-- Some violation is at least as severe as `threshold`. -/
def failsAt (r : ReviewResult) (threshold : Severity) : Bool :=
  r.violations.any (·.severity.atLeast threshold)

def bySeverity (r : ReviewResult) (severity : Severity) : List Violation :=
  r.violations.filter (·.severity = severity)

end ReviewResult

/-- Two violations on one line. -/
def Violation.sameLine (a b : Violation) : Bool :=
  a.filePath = b.filePath && a.line = b.line

/-- Keeps of each run of violations on one line the first among the most severe, given the one
kept so far of the current run. -/
def dedupeFrom (kept : Violation) : List Violation → List Violation
  | [] => [kept]
  | v :: rest =>
    if kept.sameLine v then
      dedupeFrom (if kept.severity.rank < v.severity.rank then v else kept) rest
    else kept :: dedupeFrom v rest

/-- Keeps of each run of violations on one line the first among the most severe. -/
def dedupeSameLine : List Violation → List Violation
  | [] => []
  | v :: rest => dedupeFrom v rest

end Guideline
