import Guideline.Check.Finding

/-!
# Lines

Checks that look at each line on its own: for patterns, for its length and for its blanks.
-/

namespace Guideline.Check

/-- A line of masked code that includes a file. -/
def isInclude (code : List Char) : Bool :=
  match Text.trimStart code with
  | '#' :: rest => Text.startsWith "include".toList (Text.trimStart rest)
  | _ => false

/-- The text of a line that patterns are matched with. The name of an included file is no code. -/
def targetText (target : MatchTarget) (line : SourceFile.Line) : Option (List Char) :=
  match target with
  | .raw => some line.raw
  | .code => if isInclude line.code then none else some line.code

/-- A text that matches the pattern, and not the exception. -/
def violates (pattern : Pattern) (exception : Option Pattern) (text : List Char) : Bool :=
  pattern.isMatch text && !exception.any (·.isMatch text)

/-- The lines that match the pattern, and not the exception. -/
def matchingLines (source : SourceFile) (pattern : Pattern) (exception : Option Pattern)
    (target : MatchTarget) : List Finding :=
  (source.lines.filter fun line => (targetText target line).any (violates pattern exception)).map
    fun line => { line := line.number }

/-- Lines that may be long: comments, includes, and lines with an address. -/
def mayBeLong (source : SourceFile) (line : SourceFile.Line) : Bool :=
  source.isCommentOnly line.number || isInclude line.code
    || Text.occurs "http://".toList line.raw || Text.occurs "https://".toList line.raw

/-- The lines with more than `max` characters. -/
def longLines (source : SourceFile) (max : Nat) : List Finding :=
  (source.lines.filter fun line => max < line.raw.length && !mayBeLong source line).map fun line =>
    let length := line.raw.length
    ⟨line.number, s!"Line is {length} characters (limit {max})"⟩

/-- A line that is not blank and ends in a blank. -/
def hasTrailingBlank (raw : List Char) : Bool :=
  !Text.allBlank raw && (Text.endsWithChar ' ' raw || Text.endsWithChar '\t' raw)

/-- A line with a tab among the blanks it starts with. -/
def hasTabIndent (raw : List Char) : Bool :=
  (raw.takeWhile Text.isBlank).contains '\t'

/-- The lines whose text as written has a property. -/
def linesWith (source : SourceFile) (p : List Char → Bool) : List Finding :=
  (source.lines.filter fun line => p line.raw).map fun line => { line := line.number }

end Guideline.Check
