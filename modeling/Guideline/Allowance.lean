import Guideline.Source.File

/-!
# Allow comments

A line comment `// guidelint: allow(a, b) reason="..."` suppresses the named rules, or all of them
with `all`, on its own line and on the line below.
-/

namespace Guideline

/-- What an allow comment says. -/
structure Allowance where
  /-- The rules it allows. -/
  rules : List String
  reason : Option String
deriving DecidableEq, Repr

namespace Allowance

/-- The name that stands for every rule. -/
def everyRule : String := "all"

def covers (a : Allowance) (rule : String) : Bool :=
  a.rules.contains rule || a.rules.contains everyRule

/-- The text after the `//` of a line comment, given the line as written and masked: nothing but
blanks is left of the line from a comment's start on. -/
def lineComment? : (raw code : List Char) → Option (List Char)
  | [], _ => none
  | '/' :: '/' :: raw, code =>
    if Text.allBlank code then some raw else lineComment? raw (code.drop 2)
  | _ :: raw, code => lineComment? raw (code.drop 1)

/-- The quoted reason at the start of a text. -/
def reason? (rest : List Char) : Option String := do
  let quoted ← Text.after? "reason=".toList rest
  let body ← Text.after? ['"'] (Text.trim quoted)
  if body.contains '"' then some (String.ofList (body.takeWhile (· ≠ '"'))) else none

/-- Reads the text of a comment, after its `//`. -/
def read? (comment : List Char) : Option Allowance := do
  let comment := Text.trim (comment.dropWhile fun c => c = '/' || c = '!')
  let directive ← Text.after? "guidelint:".toList comment
  let inside ← Text.after? "allow(".toList (Text.trim directive)
  let inside := Text.trim inside
  if !inside.contains ')' then none
  let names := (Text.splitAtChar ',' (inside.takeWhile (· ≠ ')'))).map Text.trim
  let rules := (names.filter fun name => !name.isEmpty).map String.ofList
  if rules.isEmpty then none
  let rest := Text.trim ((inside.dropWhile (· ≠ ')')).drop 1)
  some { rules, reason := reason? rest }

end Allowance

/-- The allow comments of a file by their lines. -/
structure Allowances where
  entries : List (Nat × Allowance)
deriving Repr

namespace Allowances

/-- Collects the allow comments of a file. -/
def scan (file : SourceFile) : Allowances :=
  ⟨file.lines.filterMap fun line =>
    ((Allowance.lineComment? line.raw line.code).bind Allowance.read?).map (line.number, ·)⟩

def isEmpty (a : Allowances) : Bool :=
  a.entries.isEmpty

/-- The comment on the given line, if it covers `rule`. -/
def coveringAt? (a : Allowances) (line : Nat) (rule : String) : Option Allowance :=
  ((a.entries.find? fun (n, _) => n = line).map (·.2)).filter (·.covers rule)

/-- The comment that allows `rule` on a line: the one on the line itself or the one above. -/
def check? (a : Allowances) (line : Nat) (rule : String) : Option Allowance :=
  match line with
  | 0 => none
  | above + 1 => (a.coveringAt? line rule).or (a.coveringAt? above rule)

end Allowances

end Guideline
