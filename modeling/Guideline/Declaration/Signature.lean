import Guideline.Declaration.Attribute

/-!
# Function signatures

Reads the head of a function declaration or definition, such as
`static int Foo::Bar(int a, int b = 2) const`. A statement that cannot be read with confidence has
no signature.
-/

namespace Guideline.Declaration

open Source

inductive FunctionKind where
  /-- Has a return type. -/
  | regular
  /-- Named after its class, without a return type. -/
  | constructor
  | destructor
  /-- An operator, conversions included. -/
  | operator
deriving DecidableEq, Repr

structure Param where
  /-- The identifiers of the parameter, in order. -/
  words : List String
  isReference : Bool
  hasDefault : Bool
deriving DecidableEq, Repr

structure Signature where
  /-- The name without qualifiers and tilde. -/
  name : String
  /-- The byte offset of the name in the statement. -/
  offset : Nat
  kind : FunctionKind
  params : List Param
  isExplicit : Bool
  isDeleted : Bool
  isDefaulted : Bool
deriving DecidableEq, Repr

/-- Specifiers, which are no return type. -/
def specifiers : List String :=
  ["virtual", "static", "inline", "explicit", "constexpr", "consteval", "friend", "extern",
    "constinit"]

/-- Words that never stand before the name of a function. -/
def notInSignature : List String :=
  ["return", "new", "delete", "else", "throw", "case", "goto", "if", "while", "for", "switch", "do",
    "sizeof", "typedef", "using", "co_return", "co_await", "co_yield", "decltype", "static_assert"]

/-- Words that may follow a parameter list. -/
def tailWords : List String :=
  ["const", "volatile", "override", "final", "noexcept", "throw", "try", "requires", "mutable"]

/-! ### The name -/

/-- The tokens of a function head around its name. -/
structure NamedHead where
  /-- What stands before the name and its qualifiers. -/
  lead : List Token
  /-- The qualifier next to the name. -/
  qualifier : Option String
  hasTilde : Bool
  name : String
  offset : Nat
  /-- What follows the opening parenthesis of the parameter list. -/
  afterParen : List Token
deriving Repr

/-- Drops the qualifiers `A::B::` at the end of the tokens, given last token first. -/
def dropQualifiers : List Token → List Token
  | c :: d :: q :: before =>
    if c.isPunct ':' && d.isPunct ':' && q.isIdent then dropQualifiers before
    else c :: d :: q :: before
  | before => before

/-- The last qualifier at the end of the tokens, given last token first. -/
def lastQualifier : List Token → Option String
  | c :: d :: q :: _ => if c.isPunct ':' && d.isPunct ':' && q.isIdent then some q.text else none
  | _ => none

/-- The head with the given name, where `before` is what stands before the name, last token
first. -/
def NamedHead.ofBefore (before : List Token) (name : String) (offset : Nat)
    (afterParen : List Token) : NamedHead :=
  let hasTilde := before.head?.any (·.isPunct '~')
  let qualified := if hasTilde then before.tail else before
  { lead := (dropQualifiers qualified).reverse, qualifier := lastQualifier qualified,
    hasTilde, name, offset, afterParen }

/-- The symbol of an operator up to the parenthesis of its parameter list, after the symbol read
so far. Words are set off by a blank unless `*`, `&` or `:` stands before them. -/
def operatorSymbol (symbol : List Char) : List Token → Option (List Char × List Token)
  | [] => none
  | t :: rest =>
    if t.isPunct '(' then some (symbol, rest)
    else
      let joined := symbol.getLast?.any fun c => c == '*' || c == '&' || c == ':'
      let gap := if t.isIdent && !joined then [' '] else []
      operatorSymbol (symbol ++ gap ++ t.text.toList) rest

/-- The name of an operator function, read after the word `operator`. -/
def operatorName? (tokens : List Token) : Option (String × List Token) :=
  let read := match tokens with
    | t :: u :: rest =>
      if t.isPunct '(' && u.isPunct ')' then operatorSymbol ['(', ')'] rest
      else operatorSymbol [] tokens
    | _ => operatorSymbol [] tokens
  match read with
  | some (symbol, rest) =>
    if symbol.isEmpty then none else some (String.ofList ("operator".toList ++ symbol), rest)
  | none => none

/-- Splits tokens at the first parenthesis outside angle brackets: what stands before it, last
token first, and what follows it. -/
def splitAtParen (angles : Nat) (before : List Token) :
    List Token → Option (List Token × List Token)
  | [] => none
  | t :: rest =>
    if t.isPunct '<' then splitAtParen (angles + 1) (t :: before) rest
    else if t.isPunct '>' then splitAtParen (angles - 1) (t :: before) rest
    else if t.isPunct '(' && angles == 0 then some (before, rest)
    else splitAtParen angles (t :: before) rest

/-- Splits tokens at the word `operator`: what stands before it, last token first, the word, and
what follows. -/
def splitAtOperator (before : List Token) : List Token → Option (List Token × Token × List Token)
  | [] => none
  | t :: rest =>
    if t.isWord "operator" then some (before, t, rest) else splitAtOperator (t :: before) rest

/-- Finds the name of the function that the tokens declare. -/
def NamedHead.find? (tokens : List Token) : Option NamedHead :=
  match splitAtOperator [] tokens with
  | some (before, word, rest) =>
    (operatorName? rest).map fun (name, afterParen) =>
      .ofBefore before name word.offset afterParen
  | none =>
    match splitAtParen 0 [] tokens with
    | some (name :: before, afterParen) =>
      if name.isIdent then some (.ofBefore before name.text name.offset afterParen) else none
    | _ => none

/-! ### The parameters -/

/-- Splits tokens at the commas outside brackets, given the piece read so far. -/
def splitParams (depth : Nat) (piece : List Token) : List Token → List (List Token)
  | [] => [piece]
  | t :: rest =>
    if t.isPunctIn ['(', '<', '[', '{'] then splitParams (depth + 1) (piece ++ [t]) rest
    else if t.isPunctIn [')', '>', ']', '}'] then splitParams (depth - 1) (piece ++ [t]) rest
    else if t.isPunct ',' && depth == 0 then piece :: splitParams 0 [] rest
    else splitParams depth (piece ++ [t]) rest

/-- The first token of a parameter. Numbers, literals and signs start an argument of a call. -/
def startsParam (t : Token) : Bool :=
  match t.kind with
  | .ident => true
  | .number | .literal => false
  | .punct => t.isPunctIn [':', '.']

/-- Reads one parameter. -/
def Param.read? (tokens : List Token) : Option Param :=
  match tokens with
  | [] => none
  | first :: _ =>
    if startsParam first then
      let declared := tokens.takeWhile fun t => !t.isPunct '='
      some
        { words := (declared.filter (·.isIdent)).map (·.text)
          isReference := declared.any (·.isPunct '&')
          hasDefault := tokens.any (·.isPunct '=') }
    else none

/-- Reads a parameter list; `none` when it reads like the arguments of a call. -/
def readParams? (tokens : List Token) : Option (List Param) :=
  if tokens.isEmpty || (tokens.length == 1 && tokens.any (·.isWord "void")) then some []
  else (splitParams 0 [] tokens).mapM Param.read?

/-! ### The signature -/

/-- What may stand before the name: words that are no statement keyword, and the punctuation of a
type. -/
def leadAllows (t : Token) : Bool :=
  match t.kind with
  | .ident => !notInSignature.contains t.text
  | .punct => t.isPunctIn [':', '<', '>', '*', '&', ',']
  | _ => false

/-- What may follow the parameter list. -/
def isSignatureTail : List Token → Bool
  | [] => true
  | t :: rest =>
    if t.isIdent then tailWords.contains t.text
    else t.isPunctIn ['=', ':', '&'] || (t.isPunct '-' && rest.head?.any (·.isPunct '>'))

/-- Somewhere `= word` stands. -/
def assignsWord (word : String) : List Token → Bool
  | t :: u :: rest => (t.isPunct '=' && u.isWord word) || assignsWord word (u :: rest)
  | _ => false

/-- The kind of the function with the given head, declared in the class `className` if any. -/
def NamedHead.kind? (head : NamedHead) (className : Option String) : Option FunctionKind :=
  if Text.startsWith "operator".toList head.name.toList then some .operator
  else if head.hasTilde then some .destructor
  else if head.lead.any (fun t => t.isIdent && !specifiers.contains t.text) then some .regular
  else if className == some head.name || head.qualifier == some head.name then some .constructor
  else none

/-- The signature that the tokens of a statement declare, within the class `className` if any. -/
def Signature.ofTokens? (tokens : List Token) (className : Option String) : Option Signature := do
  let head ← NamedHead.find? tokens
  let close ← parenEnd 1 head.afterParen
  let params ← readParams? (head.afterParen.take (close - 1))
  let tail := head.afterParen.drop close
  let kind ← head.kind? className
  if head.lead.all leadAllows && isSignatureTail tail then
    some
      { name := head.name
        offset := head.offset
        kind, params
        isExplicit := head.lead.any (·.isWord "explicit")
        isDeleted := assignsWord "delete" tail
        isDefaulted := assignsWord "default" tail }
  else none

/-- The signature that a statement declares, within the class `className` if any. -/
def signature? (text : List Char) (className : Option String) : Option Signature :=
  Signature.ofTokens? (declaringTokens text) className

end Guideline.Declaration
