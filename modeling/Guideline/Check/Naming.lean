import Guideline.Check.Finding
import Guideline.Declaration.Signature
import Guideline.Declaration.Variable
import Guideline.Source.Head

/-!
# Names

The names that a statement gives to classes, namespaces, functions and variables, and those of them
that do not match a pattern.
-/

namespace Guideline.Check

open Source Declaration

/-- The signature of a function that a statement declares or starts to define. -/
def function? (s : Statement) : Option Signature :=
  if s.scope.isDeclarative && (s.ending = .semicolon || s.ending = .opens .functionBody) then
    signature? s.text s.className
  else none

/-- The name of a function that is free to choose. -/
def functionName? (s : Statement) : Option LocatedName :=
  (function? s).bind fun sig =>
    if sig.kind = .regular && sig.name ≠ "main" then some ⟨sig.name, sig.offset⟩ else none

/-- What a variable declared in a scope is, unless it is constant. -/
def variableConstruct? : Scope → Option Construct
  | .classBody => some .memberVariable
  | .functionBody | .control => some .variableName
  | .file | .namespaceBody => some .globalVariable
  | .enumBody | .initializer => none

/-- The variables that a statement declares, by what they are. -/
def variableNames (s : Statement) (construct : Construct) : List LocatedName :=
  match s.ending, variableConstruct? s.scope with
  | .semicolon, some other =>
    ((declaredVariables? s.text).getD []).filterMap fun v =>
      if (if v.isConstant then .constant else other) = construct then some ⟨v.name, v.offset⟩
      else none
  | _, _ => []

/-- The names that a statement gives by a construct. -/
def declaredNames (s : Statement) : Construct → List LocatedName
  | .classType =>
    if s.ending = .opens .classBody then (className? (tokenize s.text)).toList else []
  | .namespaceName =>
    if s.ending = .opens .namespaceBody then namespaceNames (tokenize s.text) else []
  | .function => (functionName? s).toList
  | construct => variableNames s construct

/-- The names given by a construct that do not match the pattern. -/
def misnamed (source : SourceFile) (construct : Construct) (pattern : Pattern) : List Finding :=
  source.statements.flatMap fun s =>
    (declaredNames s construct).filterMap fun n =>
      if pattern.isMatch n.name.toList then none
      else some ⟨s.lineAt n.offset, s!"Rename '{n.name}' to match `{pattern.source}`"⟩

end Guideline.Check
