import Guideline.Path

/-!
# Globs

A glob matches whole paths. `?` stands for any character, `*` for any run of characters, `[...]` for
one of some characters, and `**` as a component of its own for any number of components.
-/

namespace Guideline

namespace Glob

/-- Characters between brackets. -/
inductive CharSpec where
  | single (c : Char)
  | range (first last : Char)
deriving DecidableEq, Repr

def CharSpec.contains : CharSpec → Char → Bool
  | .single d, c => c = d
  | .range first last, c => first ≤ c && c ≤ last

inductive Token where
  | char (c : Char)
  /-- `?` -/
  | anyChar
  /-- `*` -/
  | anySequence
  /-- `**` with the `/` after it -/
  | anyComponents
  | within (specs : List CharSpec)
  | except (specs : List CharSpec)
deriving DecidableEq, Repr

/-- Why a text is no glob. -/
inductive Fault where
  | wildcards
  | components
  | range
deriving DecidableEq, Repr

def Fault.message : Fault → String
  | .wildcards => "wildcards are either regular `*` or recursive `**`"
  | .components => "recursive wildcards must form a single path component"
  | .range => "invalid range pattern"

/-- The characters between brackets. -/
def charSpecs : List Char → List CharSpec
  | a :: '-' :: b :: rest => .range a b :: charSpecs rest
  | a :: rest => .single a :: charSpecs rest
  | [] => []

/-- The token of a bracket, from what follows the bracket, with the number of characters it takes.
The first character between the brackets does not close them. -/
def readBracket? : List Char → Option (Token × Nat)
  | '!' :: first :: rest =>
    let inner := rest.takeWhile (· ≠ ']')
    if inner.length < rest.length then some (.except (charSpecs (first :: inner)), inner.length + 3)
    else none
  | '!' :: _ => none
  | first :: rest =>
    let inner := rest.takeWhile (· ≠ ']')
    if inner.length < rest.length then some (.within (charSpecs (first :: inner)), inner.length + 2)
    else none
  | [] => none

/-- Adds a `**`, unless it follows another one that is not the first token. -/
def addComponents (tokens : List Token) : List Token :=
  if 1 < tokens.length && tokens.head? = some .anyComponents then tokens
  else .anyComponents :: tokens

/-- A fault and the position where it was noticed. -/
abbrev Error : Type := Fault × Nat

/-- Reads the tokens of a glob from a position on, given the character before and the tokens so
far, the last one first. -/
def read (position : Nat) (before : Option Char) (tokens : List Token) :
    List Char → Except Error (List Token)
  | [] => .ok tokens.reverse
  | c :: rest =>
    if c = '?' then read (position + 1) (some c) (.anyChar :: tokens) rest
    else if c = '[' then
      match readBracket? rest with
      | some (token, length) =>
        read (position + 1 + length) (some ']') (token :: tokens) (rest.drop length)
      | none => .error (.range, position)
    else if c ≠ '*' then read (position + 1) (some c) (.char c :: tokens) rest
    else if rest.head? ≠ some '*' then
      read (position + 1) (some c) (.anySequence :: tokens) rest
    else
      let after := rest.drop 1
      if after.head? = some '*' then .error (.wildcards, position + 2)
      else if before ≠ none && before ≠ some '/' then .error (.components, position - 1)
      else if after.isEmpty then .ok (addComponents tokens).reverse
      else if after.head? = some '/' then
        read (position + 3) (some '/') (addComponents tokens) (rest.drop 2)
      else .error (.components, position + 2)
termination_by cs => cs.length
decreasing_by
  all_goals simp only [List.length_cons, List.length_drop]
  all_goals omega

/-- What may be left after any number of components: the whole text, what follows a `/`, or
nothing. -/
def componentEndings (atStart : Bool) : List Char → List (List Char)
  | [] => [[]]
  | c :: cs =>
    let more := componentEndings (c = '/') cs
    if atStart then (c :: cs) :: more else more

/-- The tokens match the whole text. -/
def tokensMatch : List Token → List Char → Bool
  | [], cs => cs.isEmpty
  | .anySequence :: ts, cs => (Text.endings cs).any (tokensMatch ts)
  | .anyComponents :: ts, cs => (componentEndings true cs).any (tokensMatch ts)
  | _ :: _, [] => false
  | .char d :: ts, c :: cs => c = d && tokensMatch ts cs
  | .anyChar :: ts, _ :: cs => tokensMatch ts cs
  | .within specs :: ts, c :: cs => specs.any (·.contains c) && tokensMatch ts cs
  | .except specs :: ts, c :: cs => !specs.any (·.contains c) && tokensMatch ts cs

end Glob

structure Glob where
  source : String
  tokens : List Glob.Token
deriving DecidableEq, Repr

/-- Why a text is no glob, and where. -/
structure GlobError where
  fault : Glob.Fault
  position : Nat
deriving DecidableEq, Repr

def GlobError.message (e : GlobError) : String :=
  s!"Pattern syntax error near position {e.position}: {e.fault.message}"

/-- The message on a glob of paths to leave out. -/
def GlobError.excludeMessage (e : GlobError) : String :=
  s!"Invalid exclude pattern: {e.message}"

namespace Glob

def ofSource (source : String) : Except GlobError Glob :=
  match read 0 none [] source.toList with
  | .ok tokens => .ok { source, tokens }
  | .error (fault, position) => .error { fault, position }

/-- The glob matches the whole text. -/
def isMatch (g : Glob) (text : List Char) : Bool :=
  tokensMatch g.tokens text

/-- The directory that a glob leaves out with all below it, wherever it stands: its components
without those that are `**`, if it ends in a `/` and has no other wildcard. -/
def directory? (g : Glob) : Option (List Char) :=
  let inner := Text.replaceAll "/**".toList ['/'] (Text.replaceAll "**/".toList [] g.source.toList)
  if Text.endsWithChar '/' inner && !inner.contains '*' then some inner else none

/-- The glob leaves out a path as reports show it. -/
def excludes (g : Glob) (shown : List Char) : Bool :=
  g.isMatch shown || g.directory?.any fun dir =>
    Text.startsWith dir shown || Text.occurs ('/' :: dir) shown

end Glob

end Guideline
