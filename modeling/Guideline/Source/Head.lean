import Guideline.Source.Token

/-!
# Names in class and namespace heads

The text before an opening brace names the class or the namespaces it opens. Names come with the
byte offset at which they stand in the head.
-/

namespace Guideline.Source

/-- A name and its byte offset in the text it was read from. -/
structure LocatedName where
  name : String
  offset : Nat
deriving DecidableEq, Repr

def Token.located (t : Token) : LocatedName := ⟨t.text, t.offset⟩

/-- Names written like macros: two or more characters, all of them capitals, digits or
underscores. -/
def isMacroLike (name : String) : Bool :=
  1 < name.length && name.toList.all fun c => c.isUpper || c.isDigit || c == '_'

def classKeywords : List String := ["class", "struct", "union"]

/-- The tokens after a `[[...]]` group, read from its first bracket on. -/
def afterAttribute (tokens : List Token) : List Token :=
  (tokens.dropWhile fun t => !t.isPunct ']').drop 2

/-- The names of a class head after its keyword, given those read so far (last one first). A
qualified name counts by its last segment, and a word before parentheses is no name. Fails on
tokens that do not belong to a plain head. -/
def headNames (names : List Token) : List Token → Option (List Token)
  | [] => some names.reverse
  | t :: rest =>
    if t.isPunct ':' then
      match rest with
      | u :: more => if u.isPunct ':' then headNames names.tail more else some names.reverse
      | [] => some names.reverse
    else if t.isPunct '<' then none
    else if t.isPunct '[' then headNames names (afterAttribute rest)
    else if t.isIdent then headNames (if t.isWord "final" then names else t :: names) rest
    else if t.isPunct '(' then
      match parenEnd 1 rest with
      | some n => headNames names.tail (rest.drop n)
      | none => none
    else none
termination_by tokens => tokens.length
decreasing_by
  · simp only [List.length_cons]; omega
  · have := (List.dropWhile_sublist (fun t : Token => !t.isPunct ']') (l := rest)).length_le
    simp only [afterAttribute, List.length_drop, List.length_cons]
    omega
  · simp
  · simp only [List.length_drop, List.length_cons]; omega

/-- The name among those of a class head: the only one, or the second after a macro. -/
def chooseName : List Token → Option Token
  | [only] => some only
  | [first, second] => if isMacroLike first.text then some second else none
  | _ => none

/-- The class name declared by the tokens of a head. -/
def className? (tokens : List Token) : Option LocatedName :=
  let tokens := match skipTemplate tokens with
    | t :: rest => if t.isWord "typedef" then rest else t :: rest
    | [] => []
  match tokens with
  | [] => none
  | keyword :: rest =>
    if keyword.isOneOf classKeywords then
      ((headNames [] rest).bind chooseName).map Token.located
    else none

/-- The segments of the namespace named by the tokens of a head; an anonymous one has none. -/
def namespaceNames (tokens : List Token) : List LocatedName :=
  ((tokens.dropWhile fun t => !t.isWord "namespace").drop 1).filter
    (fun t => t.isIdent && !t.isWord "inline") |>.map Token.located

end Guideline.Source
