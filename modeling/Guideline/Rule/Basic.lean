import Guideline.Pattern.Basic
import Guideline.Violation

/-!
# Rules

A rule says what to look for in a file, and what to report where it is found.
-/

namespace Guideline

inductive FileKind where
  | header
  | source
deriving DecidableEq, Repr

/-- The files that a rule is about. -/
inductive AppliesTo where
  | all
  | headers
  | sources
deriving DecidableEq, Repr

namespace AppliesTo

def covers : AppliesTo → FileKind → Bool
  | .all, _ => true
  | .headers, kind => kind = .header
  | .sources, kind => kind = .source

def ofName? (name : String) : Option AppliesTo :=
  if name = "all" then some .all
  else if name = "headers" || name = "header" then some .headers
  else if name = "sources" || name = "source" then some .sources
  else none

end AppliesTo

/-- A construct of the language that gives something a name. -/
inductive Construct where
  | classType
  | function
  /-- A variable inside a function. -/
  | variableName
  | memberVariable
  | constant
  /-- A variable of a file or namespace. -/
  | globalVariable
  | namespaceName
deriving DecidableEq, Repr

namespace Construct

def all : List Construct :=
  [.classType, .function, .variableName, .memberVariable, .constant, .globalVariable,
    .namespaceName]

def name : Construct → String
  | .classType => "class"
  | .function => "function"
  | .variableName => "variable"
  | .memberVariable => "member_variable"
  | .constant => "constant"
  | .globalVariable => "global_variable"
  | .namespaceName => "namespace"

def label : Construct → String
  | .classType => "Class"
  | .function => "Function"
  | .variableName => "Variable"
  | .memberVariable => "Member variable"
  | .constant => "Constant"
  | .globalVariable => "Global variable"
  | .namespaceName => "Namespace"

def ofName? (name : String) : Option Construct :=
  all.find? (·.name = name)

end Construct

/-- The text of a line that a pattern is matched with. -/
inductive MatchTarget where
  /-- The line with comments and the contents of literals blanked out. -/
  | code
  /-- The line as written. -/
  | raw
deriving DecidableEq, Repr

/-- What is checked other than by a pattern. -/
inductive StructuralCheck where
  /-- A header is guarded against being included twice. -/
  | includeGuard
  /-- A function has no more lines than `max`. -/
  | functionLength (max : Nat)
  /-- A function has no more parameters than `max`. -/
  | functionParameters (max : Nat)
  /-- A function is documented. -/
  | functionComments
  /-- A constructor with one argument is explicit. -/
  | explicitConstructors
  /-- A line has no more characters than `max`. -/
  | lineLength (max : Nat)
  | trailingWhitespace
  | tabIndentation
  /-- A note on a file that cannot be read. -/
  | unreadableFile
  /-- A note on a rule that cannot be evaluated. -/
  | matcherFailure
deriving DecidableEq, Repr

namespace StructuralCheck

def name : StructuralCheck → String
  | .includeGuard => "include_guard"
  | .functionLength _ => "function_length"
  | .functionParameters _ => "function_parameters"
  | .functionComments => "function_comments"
  | .explicitConstructors => "explicit_constructors"
  | .lineLength _ => "line_length"
  | .trailingWhitespace => "trailing_whitespace"
  | .tabIndentation => "tab_indentation"
  | .unreadableFile => "unreadable_file"
  | .matcherFailure => "matcher_failure"

/-- The limit of a check that measures. -/
def max? : StructuralCheck → Option Nat
  | .functionLength max | .functionParameters max | .lineLength max => some max
  | _ => none

/-- The check is a note on a file, which no search finds. -/
def isNote (check : StructuralCheck) : Bool :=
  check = .unreadableFile || check = .matcherFailure

end StructuralCheck

/-- How a rule finds violations. -/
inductive Detection where
  /-- Names that a construct gives must match the pattern. -/
  | naming (construct : Construct) (pattern : Pattern)
  /-- A line must not match the pattern, unless it matches the exception too. -/
  | pattern (pattern : Pattern) (exception : Option Pattern) (target : MatchTarget)
  /-- A line must not hold a keyword, unless it matches the exception too. -/
  | keywords (keywords : List String) (matcher : Pattern) (exception : Option Pattern)
    (target : MatchTarget)
  | structural (check : StructuralCheck)
deriving DecidableEq, Repr

namespace Detection

/-- The word for this kind of detection in listings. -/
def kind : Detection → String
  | .naming .. => "naming"
  | .pattern .. => "pattern"
  | .keywords .. => "keywords"
  | .structural _ => "structural"

def isNote : Detection → Bool
  | .structural check => check.isNote
  | _ => false

end Detection

/-- Code that keeps a rule beside code that breaks it. -/
structure Example where
  good : String
  bad : String
deriving DecidableEq, Repr

structure Rule where
  id : String
  category : Category
  description : String
  severity : Severity
  suggestion : Option String
  appliesTo : AppliesTo
  detection : Detection
  examples : List Example
deriving DecidableEq, Repr

end Guideline
