import Guideline.Source.Token

/-!
# Kinds of brace blocks

`Scope.ofHead` decides what kind of block a brace opens from the text before it and the block
around it.
-/

namespace Guideline.Source

/-- What a region between braces, or the file as a whole, holds. -/
inductive Scope where
  | file
  /-- A namespace or `extern "C"` body. -/
  | namespaceBody
  /-- The body of a class, struct or union. -/
  | classBody
  | enumBody
  | functionBody
  /-- A braced initializer. -/
  | initializer
  /-- Any other block: control flow, lambdas, bare braces. -/
  | control
deriving DecidableEq, Repr

namespace Scope

/-- Scopes in which functions and types are declared. -/
def isDeclarative : Scope → Bool
  | .file | .namespaceBody | .classBody => true
  | _ => false

/-- Words that are followed by a block, not by a braced initializer. -/
def blockWords : List String :=
  ["else", "do", "try", "const", "override", "final", "noexcept", "mutable", "volatile", "return",
    "requires"]

/-- Words whose parentheses in a class head hold attributes. -/
def attributeWords : List String := ["alignas", "__attribute__", "__declspec"]

/-- Characters that make a following `=` part of a longer operator. -/
def operatorChars : List Char := "=!<>+-*/%&|^".toList

/-- The tokens after the first assignment outside parentheses and brackets, given the depth and
the token before. -/
def afterAssign (depth : Nat) (previous : Option Token) : List Token → Option (List Token)
  | [] => none
  | t :: rest =>
    if t.isPunctIn ['(', '['] then afterAssign (depth + 1) (some t) rest
    else if t.isPunctIn [')', ']'] then afterAssign (depth - 1) (some t) rest
    else if depth = 0 && t.isPunct '=' && !previous.any (·.isPunctIn operatorChars)
        && !rest.head?.any (·.isPunct '=') then some rest
    else afterAssign depth (some t) rest

/-- Some colon that is not part of `::`, given the token before. -/
def hasSingleColon (previous : Option Token) : List Token → Bool
  | [] => false
  | t :: rest =>
    (t.isPunct ':' && !rest.head?.any (·.isPunct ':') && !previous.any (·.isPunct ':'))
      || hasSingleColon (some t) rest

/-- The head of a constructor whose last member is initialized with braces: after its last
parenthesis a single colon follows. -/
def endsInMemberInit (tokens : List Token) : Bool :=
  tokens.any (·.isPunct ')')
    && hasSingleColon none (tokens.reverse.takeWhile fun t => !t.isPunct ')').reverse

/-- Somewhere `->` stands. -/
def hasArrow : List Token → Bool
  | t :: u :: rest => (t.isPunct '-' && u.isPunct '>') || hasArrow (u :: rest)
  | _ => false

/-- The first parenthesis, if any, belongs to an attribute word. -/
def parensAreAttributes (previous : Option Token) : List Token → Bool
  | [] => true
  | t :: rest =>
    if t.isPunct '(' then previous.any (·.isOneOf attributeWords)
    else parensAreAttributes (some t) rest

/-- A class head: a class keyword, parentheses only for attributes, and no assignment. -/
def isClassHead (lead : Option Token) (tokens : List Token) : Bool :=
  lead.any (·.isOneOf ["class", "struct", "union"]) && parensAreAttributes none tokens
    && !tokens.any (·.isPunct '=')

/-- The kind of the block opened after the tokens `first :: rest`, the last of which is `last`. -/
def ofTokens (scope : Scope) (first : Token) (rest : List Token) : Scope :=
  let tokens := first :: rest
  let last := tokens.getLast (List.cons_ne_nil first rest)
  let lead := if first.isWord "typedef" then rest.head? else some first
  let hasParen := tokens.any (·.isPunct '(')
  let assigned := if tokens.any (·.isWord "operator") then none else afterAssign 0 none tokens
  if tokens.any (·.isWord "namespace")
      || (first.isWord "extern" && rest.head?.any (·.kind == .literal)) then .namespaceBody
  else if lead.any (·.isWord "enum") then .enumBody
  else if isClassHead lead tokens then .classBody
  else
    match assigned with
    | some value => if value.any (·.isPunctIn ['(', '[']) then .control else .initializer
    | none =>
      if (last.isIdent || last.isPunct '>') && !hasArrow tokens && !last.isOneOf blockWords
          && (!hasParen || endsInMemberInit tokens) then .initializer
      else if last.isWord "return" then .initializer
      else if hasParen && scope.isDeclarative then .functionBody
      else .control

/-- The kind of the block that a brace after the text `head` opens within `scope`. -/
def ofHead (scope : Scope) (head : List Char) : Scope :=
  match scope with
  | .initializer | .enumBody => .initializer
  | _ =>
    match skipTemplate (tokenize head) with
    | [] => .control
    | first :: rest => ofTokens scope first rest

end Scope

end Guideline.Source
