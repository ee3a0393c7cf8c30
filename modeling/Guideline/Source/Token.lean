import Guideline.Source.Mask
import Guideline.Text.Utf8

/-!
# Tokens

Masked code splits into identifiers, numbers, literals and single punctuation characters; white
space only separates them. Each token carries the byte offset at which it starts.
-/

namespace Guideline.Source

inductive TokenKind where
  | ident
  | number
  /-- A string or character literal, its contents masked. -/
  | literal
  /-- Any other single character. -/
  | punct
deriving DecidableEq, Repr

structure Token where
  kind : TokenKind
  text : String
  /-- The byte offset of the first character. -/
  offset : Nat
deriving DecidableEq, Repr

namespace Token

/-- The identifier spelled `word`. -/
def isWord (t : Token) (word : String) : Bool :=
  t.kind == .ident && t.text == word

/-- An identifier spelled like one of `words`. -/
def isOneOf (t : Token) (words : List String) : Bool :=
  t.kind == .ident && words.contains t.text

/-- The punctuation character `c`. -/
def isPunct (t : Token) (c : Char) : Bool :=
  t.kind == .punct && t.text == String.singleton c

/-- A punctuation character among `cs`. -/
def isPunctIn (t : Token) (cs : List Char) : Bool :=
  cs.any t.isPunct

def isIdent (t : Token) : Bool :=
  t.kind == .ident

end Token

/-- Characters that continue a number: besides those of identifiers the point and the digit
separator. -/
def isNumberChar (c : Char) : Bool :=
  isIdentChar c || c == '.' || c == '\''

/-- Splits a text after the first `quote`; the first part holds it. -/
def splitAfter (quote : Char) : List Char → List Char × List Char
  | [] => ([], [])
  | c :: rest =>
    if c = quote then ([c], rest)
    else
      let (body, after) := splitAfter quote rest
      (c :: body, after)

/-- The token that starts with `c`, without white space: its kind, the characters after `c` that
belong to it, and those that do not. -/
def scanToken (c : Char) (rest : List Char) : TokenKind × List Char × List Char :=
  if c.isDigit then (.number, rest.takeWhile isNumberChar, rest.dropWhile isNumberChar)
  else if isIdentChar c then (.ident, rest.takeWhile isIdentChar, rest.dropWhile isIdentChar)
  else if c = '"' || c = '\'' then (.literal, splitAfter c rest)
  else (.punct, [], rest)

theorem splitAfter_append (quote : Char) (cs : List Char) :
    (splitAfter quote cs).1 ++ (splitAfter quote cs).2 = cs := by
  induction cs with
  | nil => rfl
  | cons c rest ih =>
    unfold splitAfter
    split
    · simp
    · simpa using ih

/-- A token's characters and what follows it make up the text again. -/
theorem scanToken_append (c : Char) (rest : List Char) :
    (scanToken c rest).2.1 ++ (scanToken c rest).2.2 = rest := by
  unfold scanToken
  split
  · simp
  split
  · simp
  split
  · exact splitAfter_append c rest
  · rfl

theorem length_scanToken_le (c : Char) (rest : List Char) :
    (scanToken c rest).2.2.length ≤ rest.length := by
  have h := congrArg List.length (scanToken_append c rest)
  simp only [List.length_append] at h
  omega

/-- The tokens of a text that starts at the byte offset `offset`. -/
def tokenizeFrom (offset : Nat) : List Char → List Token
  | [] => []
  | c :: rest =>
    if Text.isBlank c then tokenizeFrom (offset + c.utf8Size) rest
    else
      let scanned := scanToken c rest
      let text := c :: scanned.2.1
      { kind := scanned.1, text := String.ofList text, offset }
        :: tokenizeFrom (offset + Text.byteLength text) scanned.2.2
termination_by cs => cs.length
decreasing_by
  · simp
  · have := length_scanToken_le c rest
    simp only [List.length_cons]
    omega

/-- Splits masked code into tokens. -/
def tokenize (text : List Char) : List Token :=
  tokenizeFrom 0 text

/-! ### Matching brackets -/

/-- The number of tokens up to and including the `)` that brings `depth` open parentheses back to
none. -/
def parenEnd (depth : Nat) : List Token → Option Nat
  | [] => none
  | t :: rest =>
    if t.isPunct '(' then (parenEnd (depth + 1) rest).map (· + 1)
    else if t.isPunct ')' then
      if depth ≤ 1 then some 1 else (parenEnd (depth - 1) rest).map (· + 1)
    else (parenEnd depth rest).map (· + 1)

/-- The number of tokens up to and including the `>` that brings `depth` open angle brackets back
to none, inside `parens` open parentheses; angle brackets in parentheses do not count. -/
def angleEnd (parens depth : Nat) : List Token → Option Nat
  | [] => none
  | t :: rest =>
    if t.isPunct '(' then (angleEnd (parens + 1) depth rest).map (· + 1)
    else if t.isPunct ')' then (angleEnd (parens - 1) depth rest).map (· + 1)
    else if parens = 0 && t.isPunct '<' then (angleEnd parens (depth + 1) rest).map (· + 1)
    else if parens = 0 && t.isPunct '>' then
      if depth ≤ 1 then some 1 else (angleEnd parens (depth - 1) rest).map (· + 1)
    else (angleEnd parens depth rest).map (· + 1)

/-- The index of the `)` that closes the `(` at index `start`. -/
def matchingParen (tokens : List Token) (start : Nat) : Option Nat :=
  (parenEnd 0 (tokens.drop start)).map (start + · - 1)

/-- The index of the `>` that closes the `<` at index `start`. -/
def matchingAngle (tokens : List Token) (start : Nat) : Option Nat :=
  (angleEnd 0 0 (tokens.drop start)).map (start + · - 1)

/-- Drops leading `template <...>` parameter lists; an unclosed one takes everything with it. -/
def skipTemplate (tokens : List Token) : List Token :=
  match tokens with
  | t :: u :: rest =>
    if t.isWord "template" && u.isPunct '<' then
      match angleEnd 0 0 (u :: rest) with
      | some n => skipTemplate ((u :: rest).drop n)
      | none => []
    else tokens
  | _ => tokens
termination_by tokens.length
decreasing_by
  simp only [List.length_drop, List.length_cons]
  omega

end Guideline.Source
