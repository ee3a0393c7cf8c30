import Guideline.Text.Affix
import Guideline.Text.Blank
import Guideline.Unicode.Alphanumeric

/-!
# Masked code

Masking blanks out comments and the contents of literals and keeps everything else, one character
of output for each character of input, so that columns stay where they are. `Cursor.step` decides
about one character at a time, with the rest of the line in sight; what it has decided about the
characters after this one waits in `Cursor.ahead`.
-/

namespace Guideline.Source

/-- Characters of identifiers: letters and numbers of every script, and the underscore. -/
def isIdentChar (c : Char) : Bool :=
  Unicode.isAlphanumeric c || c == '_'

/-- ASCII letters and digits. -/
def isAsciiAlphanumeric (c : Char) : Bool :=
  c.isAlphanum

/-- What a character belongs to. -/
inductive Region where
  | code
  | lineComment
  | blockComment
  | string
  | character
  /-- The body of a raw string that ends at `)`, this delimiter and a quote. -/
  | raw (delimiter : List Char)
deriving DecidableEq, Repr

/-- The words that make a following string literal raw. -/
def rawMarkers : List String := ["R", "u8R", "uR", "UR", "LR"]

/-- The longest delimiter of a raw string. -/
def maxDelimiter : Nat := 16

/-- The delimiter of a raw string, read from after its opening quote up to its parenthesis. -/
def rawDelimiterFrom (delimiter : List Char) : List Char → Option (List Char)
  | [] => none
  | c :: rest =>
    if c = '(' then some delimiter
    else if c = ')' || c = '\\' || Text.isBlank c || maxDelimiter ≤ delimiter.length then none
    else rawDelimiterFrom (delimiter ++ [c]) rest

/-- The delimiter of the raw string whose opening quote stands between `before` (the line up to
it, last character first) and `rest`. -/
def rawDelimiter? (before rest : List Char) : Option (List Char) :=
  if rawMarkers.contains (String.ofList (before.takeWhile isIdentChar).reverse) then
    rawDelimiterFrom [] rest
  else none

/-- Where masking stands within a line. -/
structure Cursor where
  region : Region := .code
  /-- Inside a number, where an apostrophe separates digits. -/
  inNumber : Bool := false
  /-- Decisions already made about the next characters: `true` keeps one. -/
  ahead : List Bool := []
deriving DecidableEq, Repr

namespace Cursor

/-- Decides about the character `c` of code. -/
def stepCode (inNumber : Bool) (before : List Char) (c : Char) (rest : List Char) : Bool × Cursor :=
  if c = '/' && rest.head? == some '/' then (false, ⟨.lineComment, inNumber, []⟩)
  else if c = '/' && rest.head? == some '*' then (false, ⟨.blockComment, inNumber, [false]⟩)
  else if c = '"' then
    match rawDelimiter? before rest with
    | some delimiter =>
      (true, ⟨.raw delimiter, inNumber, List.replicate (delimiter.length + 1) false⟩)
    | none => (true, ⟨.string, false, []⟩)
  else if c = '\'' then
    if inNumber && rest.head?.any isAsciiAlphanumeric then (true, ⟨.code, inNumber, []⟩)
    else (true, ⟨.character, false, []⟩)
  else
    let startsNumber := c.isDigit && !before.head?.any isIdentChar
    let continues := isIdentChar c || c == '.'
    (true, ⟨.code, startsNumber || (inNumber && continues), []⟩)

/-- Decides about the character `c` of a literal that ends at `quote`. -/
def stepLiteral (region : Region) (quote : Char) (inNumber : Bool) (c : Char) (rest : List Char) :
    Bool × Cursor :=
  if c = '\\' then (false, ⟨region, inNumber, if rest.isEmpty then [] else [false]⟩)
  else if c = quote then (true, ⟨.code, inNumber, []⟩)
  else (false, ⟨region, inNumber, []⟩)

/-- Decides whether the character `c` is kept, given the line before it (last character first)
and after it. -/
def step (cursor : Cursor) (before : List Char) (c : Char) (rest : List Char) : Bool × Cursor :=
  match cursor.ahead with
  | keep :: ahead => (keep, { cursor with ahead })
  | [] =>
    match cursor.region with
    | .code => stepCode cursor.inNumber before c rest
    | .lineComment => (false, cursor)
    | .blockComment =>
      if c = '*' && rest.head? == some '/' then (false, ⟨.code, cursor.inNumber, [false]⟩)
      else (false, cursor)
    | .string => stepLiteral .string '"' cursor.inNumber c rest
    | .character => stepLiteral .character '\'' cursor.inNumber c rest
    | .raw delimiter =>
      if c = ')' && Text.startsWith (delimiter ++ ['"']) rest then
        (false, ⟨.code, cursor.inNumber, List.replicate delimiter.length false ++ [true]⟩)
      else (false, cursor)

end Cursor

/-- Masks the rest of a line and gives the region at its end. -/
def maskFrom (cursor : Cursor) (before : List Char) : List Char → List Char × Region
  | [] => ([], cursor.region)
  | c :: rest =>
    let (keep, next) := cursor.step before c rest
    let (masked, region) := maskFrom next (c :: before) rest
    ((if keep then c else ' ') :: masked, region)

/-- The region that the next line starts in: line comments and ordinary literals run on only
after a backslash at the end of the line. -/
def Region.nextLine (region : Region) (line : List Char) : Region :=
  match region with
  | .lineComment | .string | .character =>
    if Text.endsWithChar '\\' line then region else .code
  | _ => region

/-- Masks one line that starts in the given region. -/
def maskLine (region : Region) (line : List Char) : List Char × Region :=
  let (masked, region) := maskFrom { region } [] line
  (masked, region.nextLine line)

/-- Masks lines, the first of which starts in the given region. -/
def maskLinesFrom (region : Region) : List (List Char) → List (List Char)
  | [] => []
  | line :: rest =>
    let (masked, next) := maskLine region line
    masked :: maskLinesFrom next rest

/-- Masks the lines of a file. -/
def maskLines (lines : List (List Char)) : List (List Char) :=
  maskLinesFrom .code lines

end Guideline.Source
