import Guideline.Declaration.Attribute

/-!
# Variable declarations

Reads the declarators of a statement such as `const int a, *b = f(1, 2), c[4]`. Function prototypes,
direct initialization, expressions and qualified definitions are no variable declarations. A later
declarator that cannot be read ends the list without discarding those before it.
-/

namespace Guideline.Declaration

open Source

structure Variable where
  name : String
  /-- The byte offset of the name in the statement. -/
  offset : Nat
  /-- Declared `constexpr`, or `const` itself and not only what it points to. -/
  isConstant : Bool
deriving DecidableEq, Repr

/-- Words that no variable declaration starts with. -/
def notInDeclaration : List String :=
  ["return", "using", "typedef", "friend", "class", "struct", "union", "enum", "template", "if",
    "else", "for", "while", "do", "switch", "case", "goto", "break", "continue", "throw", "delete",
    "new", "namespace", "static_assert", "co_return", "co_yield", "co_await", "sizeof", "asm",
    "operator", "default", "public", "private", "protected", "typename", "decltype"]

/-- Specifiers before the type of a variable. -/
def variableSpecifiers : List String :=
  ["const", "constexpr", "static", "mutable", "inline", "extern", "volatile", "thread_local",
    "register", "constinit"]

def builtinTypeWords : List String :=
  ["unsigned", "signed", "long", "short", "int", "char", "double", "float", "bool", "void", "auto",
    "wchar_t", "char8_t", "char16_t", "char32_t"]

/-! ### The type -/

/-- What follows a leading `::`. -/
def afterScope? : List Token → Option (List Token)
  | t :: u :: rest => if t.isPunct ':' && u.isPunct ':' then some rest else none
  | _ => none

theorem length_afterScope? {tokens rest : List Token} (h : afterScope? tokens = some rest) :
    rest.length < tokens.length := by
  unfold afterScope? at h
  split at h
  · split at h
    · cases h
      simp only [List.length_cons]
      omega
    · cases h
  · cases h

/-- What follows the template arguments at the start of the tokens, if there are any; fails when
they are not closed. -/
def afterArguments? : List Token → Option (List Token)
  | [] => some []
  | t :: rest => if t.isPunct '<' then (angleEnd 0 1 rest).map rest.drop else some (t :: rest)

theorem length_afterArguments? {tokens rest : List Token} (h : afterArguments? tokens = some rest) :
    rest.length ≤ tokens.length := by
  unfold afterArguments? at h
  split at h
  · cases h
    simp
  · split at h
    · obtain ⟨n, _, rfl⟩ := Option.map_eq_some_iff.1 h
      simp only [List.length_drop, List.length_cons]
      omega
    · cases h
      simp

/-- Reads a type name: identifiers joined by `::`, each with optional template arguments. Gives
what follows it. -/
def readQualifiedType? : List Token → Option (List Token)
  | [] => none
  | t :: rest =>
    if t.isIdent then
      match ha : afterArguments? rest with
      | none => none
      | some after =>
        match hs : afterScope? after with
        | none => some after
        | some next =>
          have := length_afterArguments? ha
          have := length_afterScope? hs
          readQualifiedType? next
    else none
termination_by tokens => tokens.length
decreasing_by simp only [List.length_cons]; omega

/-- Reads a type and gives what follows it: built-in type words, or a type name. -/
def readType? (tokens : List Token) : Option (List Token) :=
  match tokens with
  | [] => none
  | t :: _ =>
    if t.isOneOf builtinTypeWords then some (tokens.dropWhile (·.isOneOf builtinTypeWords))
    else readQualifiedType? ((afterScope? tokens).getD tokens)

/-! ### Declarators -/

/-- Reads the pointer and `const` marks before a name: whether the name is constant so far and
whether it is reached through a pointer or reference, and what follows. -/
def readIndirection (isConst indirect : Bool) : List Token → Bool × Bool × List Token
  | [] => (isConst, indirect, [])
  | t :: rest =>
    if t.isWord "const" then readIndirection true false rest
    else if t.isWord "volatile" then readIndirection isConst indirect rest
    else if t.isPunctIn ['*', '&'] then readIndirection isConst true rest
    else (isConst, indirect, t :: rest)

theorem length_readIndirection (isConst indirect : Bool) (tokens : List Token) :
    (readIndirection isConst indirect tokens).2.2.length ≤ tokens.length := by
  induction tokens generalizing isConst indirect with
  | nil => simp [readIndirection]
  | cons t rest ih =>
    unfold readIndirection
    split
    · exact Nat.le_succ_of_le (ih _ _)
    split
    · exact Nat.le_succ_of_le (ih _ _)
    split
    · exact Nat.le_succ_of_le (ih _ _)
    · simp

/-- What may follow the name of a declarator: an initializer, an array bound, a bit-field width,
the next declarator, or nothing. -/
def endsDeclarator : List Token → Bool
  | [] => true
  | t :: rest =>
    if t.isPunct ':' then !rest.head?.any (·.isPunct ':') else t.isPunctIn ['=', '{', '[', ',']

/-- The first token as the name of a declarator, with what follows. -/
def declaratorName? : List Token → Option (Token × List Token)
  | [] => none
  | name :: rest =>
    if name.isIdent && !builtinTypeWords.contains name.text && !name.isWord "operator"
        && endsDeclarator rest then some (name, rest)
    else none

/-- Reads a declarator and gives what follows its name. -/
def readDeclarator? (baseConst : Bool) (tokens : List Token) : Option (Variable × List Token) :=
  let read := readIndirection baseConst false tokens
  (declaratorName? read.2.2).map fun (name, rest) =>
    (⟨name.text, name.offset, read.1 && !read.2.1⟩, rest)

theorem length_readDeclarator? {baseConst : Bool} {tokens rest : List Token} {v : Variable}
    (h : readDeclarator? baseConst tokens = some (v, rest)) : rest.length < tokens.length := by
  have hle := length_readIndirection baseConst false tokens
  unfold readDeclarator? at h
  obtain ⟨⟨name, after⟩, hn, he⟩ := Option.map_eq_some_iff.1 h
  cases he
  unfold declaratorName? at hn
  split at hn
  · cases hn
  · split at hn
    · cases hn
      grind
    · cases hn

/-- What follows the next comma outside brackets and template arguments. -/
def nextDeclarator? (depth : Nat) : List Token → Option (List Token)
  | [] => none
  | t :: rest =>
    if t.isPunctIn ['(', '[', '{'] then nextDeclarator? (depth + 1) rest
    else if t.isPunctIn [')', ']', '}'] then nextDeclarator? (depth - 1) rest
    else if t.isPunct '<' && depth == 0 then
      match angleEnd 0 1 rest with
      | some n => nextDeclarator? 0 (rest.drop n)
      | none => nextDeclarator? 0 rest
    else if t.isPunct ',' && depth == 0 then some rest
    else nextDeclarator? depth rest
termination_by tokens => tokens.length
decreasing_by all_goals simp only [List.length_drop, List.length_cons]; omega

theorem length_nextDeclarator? {depth : Nat} {tokens rest : List Token}
    (h : nextDeclarator? depth tokens = some rest) : rest.length < tokens.length := by
  fun_induction nextDeclarator? depth tokens with
  | case1 => cases h
  | case2 depth t more _ ih => exact Nat.lt_succ_of_lt (ih h)
  | case3 depth t more _ _ ih => exact Nat.lt_succ_of_lt (ih h)
  | case4 depth t more _ _ _ n _ ih =>
    have := ih h
    simp only [List.length_drop, List.length_cons] at *
    omega
  | case5 depth t more _ _ _ _ ih => exact Nat.lt_succ_of_lt (ih h)
  | case6 => cases h; simp
  | case7 depth t more _ _ _ _ ih => exact Nat.lt_succ_of_lt (ih h)

/-- Reads the declarators after the first, from what follows a declarator's name. -/
def moreDeclarators (baseConst : Bool) (tokens : List Token) : List Variable :=
  match hn : nextDeclarator? 0 tokens with
  | none => []
  | some start =>
    match hd : readDeclarator? baseConst start with
    | none => []
    | some (v, rest) =>
      have := length_nextDeclarator? hn
      have := length_readDeclarator? hd
      v :: moreDeclarators baseConst rest
termination_by tokens.length

/-! ### The declaration -/

/-- The variables that the tokens of a statement declare. -/
def variablesOfTokens? (tokens : List Token) : Option (List Variable) := do
  let first ← tokens.head?
  if !first.isIdent || notInDeclaration.contains first.text then none
  let specified := tokens.takeWhile (·.isOneOf variableSpecifiers)
  let rest := tokens.dropWhile (·.isOneOf variableSpecifiers)
  if rest.head?.any (·.kind == .literal) then none
  let typed ← readType? rest
  let qualifiers := typed.takeWhile (·.isOneOf ["const", "volatile"])
  let baseConst := (specified ++ qualifiers).any (·.isWord "const")
  let (v, rest) ← readDeclarator? baseConst (typed.dropWhile (·.isOneOf ["const", "volatile"]))
  let found := v :: moreDeclarators baseConst rest
  if specified.any (·.isWord "constexpr") then
    some (found.map fun v => { v with isConstant := true })
  else some found

/-- The variables that a statement declares. -/
def declaredVariables? (text : List Char) : Option (List Variable) :=
  variablesOfTokens? (declaringTokens text)

end Guideline.Declaration
