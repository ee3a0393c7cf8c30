import Guideline.Source.Outline
import Guideline.Text.Lines

/-!
# Source files

What checks see of a file: its lines as written and masked, which of them belong to preprocessor
directives, its statements and its blocks. Lines are numbered from 1.
-/

namespace Guideline

open Source

structure SourceFile where
  raw : List (List Char)
  code : List (List Char)
  directives : List Bool
  statements : List Statement
  blocks : List Block
  strayCloses : List Nat
deriving Repr

namespace SourceFile

/-- Marks the lines of directives: those that start with `#`, and those that continue one after a
backslash. -/
def directiveFlags (continued : Bool) : List (List Char) → List Bool
  | [] => []
  | line :: rest =>
    let isDirective := continued || (Text.trimStart line).head? == some '#'
    isDirective :: directiveFlags (isDirective && Text.endsWithChar '\\' (Text.trimEnd line)) rest

def ofLines (raw : List (List Char)) : SourceFile :=
  let code := maskLines raw
  let directives := directiveFlags false code
  let outline := Outline.feedLines {} 1 (code.zip directives)
  { raw, code, directives,
    statements := outline.statements.toList
    blocks := outline.blocks.toList
    strayCloses := outline.strayCloses.toList }

/-- Reads the text of a file. -/
def parse (content : List Char) : SourceFile :=
  ofLines (Text.lines content)

def lineCount (f : SourceFile) : Nat :=
  f.raw.length

/-- The entry of a 1-based line. -/
def atLine {α : Type} (entries : List α) (line : Nat) : Option α :=
  match line with
  | 0 => none
  | n + 1 => entries[n]?

/-- A line as written; empty out of range. -/
def rawLine (f : SourceFile) (line : Nat) : List Char :=
  (atLine f.raw line).getD []

/-- A line of masked code; empty out of range. -/
def codeLine (f : SourceFile) (line : Nat) : List Char :=
  (atLine f.code line).getD []

def isDirective (f : SourceFile) (line : Nat) : Bool :=
  (atLine f.directives line).getD false

/-- The line is not blank but holds no code. -/
def isCommentOnly (f : SourceFile) (line : Nat) : Bool :=
  !Text.allBlank (f.rawLine line) && Text.allBlank (f.codeLine line)

/-- A line with its number, as written and masked. -/
structure Line where
  number : Nat
  raw : List Char
  code : List Char
deriving DecidableEq, Repr

def lines (f : SourceFile) : List Line :=
  (f.raw.zip f.code).zipIdx.map fun ((raw, code), i) => ⟨i + 1, raw, code⟩

/-- The first line at which the braces stop balancing. -/
def firstUnbalanced (f : SourceFile) : Option Nat :=
  let stray := f.strayCloses.head?
  let unclosed := (f.blocks.find? (·.closeLine.isNone)).map (·.openLine)
  match stray, unclosed with
  | some a, some b => some (min a b)
  | a, b => a.or b

end SourceFile

end Guideline
