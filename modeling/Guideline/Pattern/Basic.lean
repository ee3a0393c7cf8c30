import Guideline.Pattern.Parser

/-!
# Patterns

A pattern is a regular expression together with the text it was written as. A list of keywords
makes a pattern that matches each of them as a whole word.
-/

namespace Guideline

open Pattern

/-- Why a text or a list of keywords makes no pattern. -/
inductive PatternError where
  | empty
  | invalid (source : String)
  | noKeywords
  | blankKeyword
deriving DecidableEq, Repr

def PatternError.message : PatternError → String
  | .empty => "pattern must not be empty"
  | .invalid source => s!"invalid pattern `{source}`"
  | .noKeywords => "keyword list must not be empty"
  | .blankKeyword => "keywords must not be blank"

structure Pattern where
  source : String
  regex : Regex
deriving DecidableEq, Repr

namespace Pattern

/-- Reads a pattern. -/
def ofSource (source : String) : Except PatternError Pattern :=
  if source.isEmpty then .error .empty
  else
    match parse? source.toList with
    | some regex => .ok { source, regex }
    | none => .error (.invalid source)

/-- A text that, read as a pattern, matches just `cs`. -/
def escape (cs : List Char) : List Char :=
  cs.flatMap fun c => if metaChars.contains c then ['\\', c] else [c]

/-- The pattern that matches each of the keywords, without the blanks around it, as a whole
word. -/
def ofKeywords (keywords : List String) : Except PatternError Pattern :=
  if keywords.isEmpty then .error .noKeywords
  else if keywords.any fun k => Text.allBlank k.toList then .error .blankKeyword
  else
    let escaped := keywords.map fun k => String.ofList (escape (Text.trim k.toList))
    ofSource ("\\b(?:" ++ "|".intercalate escaped ++ ")\\b")

/-- Some part of the text matches. -/
def isMatch (p : Pattern) (text : List Char) : Bool :=
  p.regex.isMatch text

end Pattern

end Guideline
