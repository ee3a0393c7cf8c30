import Guideline.Pattern.Regex
import Guideline.Text.Affix
import Guideline.Unicode.Property

/-!
# Escapes of the pattern syntax

Readers for the parts of a pattern that start with a backslash. Each takes the rest of the pattern
and gives what it read with what follows, or nothing if the pattern is malformed. When blanks are
ignored they may stand between the characters of an escape.
-/

namespace Guideline.Pattern

/-- Drops ignored blanks and comments, inside a comment if `inComment` holds. -/
def dropIgnored (inComment : Bool) : List Char → List Char
  | [] => []
  | c :: rest =>
    if inComment then dropIgnored (c ≠ '\n') rest
    else if Text.isBlank c then dropIgnored false rest
    else if c = '#' then dropIgnored true rest
    else c :: rest

/-- Drops blanks and comments if they are ignored. -/
def skip (ignoreBlank : Bool) (cs : List Char) : List Char :=
  if ignoreBlank then dropIgnored false cs else cs

/-- The characters up to a closing brace, without ignored ones, and what follows it. -/
def untilBrace (ignoreBlank inComment : Bool) : List Char → Option (List Char × List Char)
  | [] => none
  | c :: rest =>
    if inComment then untilBrace ignoreBlank (c ≠ '\n') rest
    else if ignoreBlank && Text.isBlank c then untilBrace ignoreBlank false rest
    else if ignoreBlank && c = '#' then untilBrace ignoreBlank true rest
    else if c = '\x7d' then some ([], rest)
    else (untilBrace ignoreBlank false rest).map fun (body, after) => (c :: body, after)

/-- The character with the given number; surrogates and numbers too large have none. -/
def scalar? (n : Nat) : Option Char :=
  if n.isValidChar then some (Char.ofNat n) else none

/-- Reads exactly `n` hexadecimal digits on top of `value`. -/
def hexFixed (ignoreBlank : Bool) : (n value : Nat) → List Char → Option (Nat × List Char)
  | 0, value, cs => some (value, cs)
  | _ + 1, _, [] => none
  | n + 1, value, c :: cs =>
    (Text.hexDigit? c).bind fun d => hexFixed ignoreBlank n (value * 16 + d) (skip ignoreBlank cs)

/-- A character of the pattern. -/
structure Literal where
  char : Char
  /-- Written with two hexadecimal digits, which name a byte where Unicode is off. -/
  isByte : Bool := false
deriving DecidableEq, Repr

/-- The classes with a one-letter escape. -/
inductive PerlClass where
  | digit
  | space
  | word
deriving DecidableEq, Repr

/-- An assertion about words, before it is known which characters they are made of. -/
inductive WordLook where
  | boundary
  | notBoundary
  | start
  | stop
  | startHalf
  | stopHalf
deriving DecidableEq, Repr

/-- What an escape stands for. -/
inductive Escape where
  | literal (l : Literal)
  | textStart
  | textEnd
  | wordLook (w : WordLook)
  | perl (kind : PerlClass) (negated : Bool)
  | property (ranges : Unicode.Ranges) (negated : Bool)
deriving DecidableEq, Repr

/-- Reads a hexadecimal escape after its letter, which allows `digits` digits. -/
def hexEscape (ignoreBlank : Bool) (digits : Nat) (cs : List Char) : Option (Escape × List Char) :=
  match skip ignoreBlank cs with
  | [] => none
  | '\x7b' :: rest => do
    let (body, after) ← untilBrace ignoreBlank false rest
    if body.isEmpty then none
    let char ← (Text.digitsValue? 16 Text.hexDigit? body).bind scalar?
    some (.literal { char }, skip ignoreBlank after)
  | rest => do
    let (value, after) ← hexFixed ignoreBlank digits 0 rest
    let char ← scalar? value
    some (.literal { char, isByte := digits == 2 }, after)

/-- Splits a text at the first occurrence of `sep`. -/
def splitAtText? (sep : List Char) : List Char → Option (List Char × List Char)
  | [] => none
  | c :: rest =>
    match Text.after? sep (c :: rest) with
    | some after => some ([], after)
    | none => (splitAtText? sep rest).map fun (before, after) => (c :: before, after)

/-- The set that the braces of a property escape name, and whether it is negated. -/
def namedProperty? (body : List Char) : Option (Unicode.Ranges × Bool) :=
  match splitAtText? ['!', '='] body with
  | some (property, value) => (Unicode.valueSet? property value).map (·, true)
  | none =>
    match (splitAtText? [':'] body).or (splitAtText? ['='] body) with
    | some (property, value) => (Unicode.valueSet? property value).map (·, false)
    | none => (Unicode.propertySet? body).map (·, false)

/-- Reads a property escape after its letter. -/
def propertyEscape (ignoreBlank negated : Bool) (cs : List Char) : Option (Escape × List Char) :=
  match skip ignoreBlank cs with
  | [] => none
  | '\x7b' :: rest => do
    let (body, after) ← untilBrace ignoreBlank false rest
    let (ranges, inverted) ← namedProperty? body
    some (.property ranges (negated != inverted), after)
  | c :: rest =>
    if c = '\\' then none
    else (Unicode.propertySet? [c]).map fun ranges => (.property ranges negated, rest)

/-- Characters of the names of word assertions. -/
def isLookNameChar (c : Char) : Bool :=
  c.isAlpha || c == '-'

/-- The characters of the name of a word assertion and what follows; `fuel` bounds its length. -/
def lookName (ignoreBlank : Bool) : (fuel : Nat) → List Char → List Char × List Char
  | 0, cs => ([], cs)
  | _ + 1, [] => ([], [])
  | fuel + 1, c :: cs =>
    if isLookNameChar c then
      let (name, rest) := lookName ignoreBlank fuel (skip ignoreBlank cs)
      (c :: name, rest)
    else ([], c :: cs)

/-- Reads what follows `\b`: nothing, or the name of a word assertion in braces. A brace before
anything but a name starts a repetition. -/
def wordBoundaryEscape (ignoreBlank : Bool) (cs : List Char) : Option (Escape × List Char) :=
  match cs with
  | '\x7b' :: rest =>
    match skip ignoreBlank rest with
    | [] => none
    | c :: more =>
      if isLookNameChar c then
        match lookName ignoreBlank (more.length + 1) (c :: more) with
        | (name, '\x7d' :: after) =>
          match String.ofList name with
          | "start" => some (.wordLook .start, after)
          | "end" => some (.wordLook .stop, after)
          | "start-half" => some (.wordLook .startHalf, after)
          | "end-half" => some (.wordLook .stopHalf, after)
          | _ => none
        | _ => none
      else some (.wordLook .boundary, cs)
  | _ => some (.wordLook .boundary, cs)

/-- Characters with a meaning in patterns. -/
def metaChars : List Char := "\\.+*?()|[]\x7b\x7d^$#&-~".toList

/-- Characters that stand for themselves after a backslash: ASCII other than letters, digits and
angle brackets. -/
def isEscapable (c : Char) : Bool :=
  c.toNat < 128 && !c.isAlphanum && c != '<' && c != '>'

/-- Reads an escape after its backslash. -/
def readEscape (ignoreBlank : Bool) : List Char → Option (Escape × List Char)
  | [] => none
  | c :: rest =>
    let literal := fun char => some (Escape.literal { char }, rest)
    match c with
    | 'x' => hexEscape ignoreBlank 2 rest
    | 'u' => hexEscape ignoreBlank 4 rest
    | 'U' => hexEscape ignoreBlank 8 rest
    | 'p' => propertyEscape ignoreBlank false rest
    | 'P' => propertyEscape ignoreBlank true rest
    | 'd' => some (.perl .digit false, rest)
    | 'D' => some (.perl .digit true, rest)
    | 's' => some (.perl .space false, rest)
    | 'S' => some (.perl .space true, rest)
    | 'w' => some (.perl .word false, rest)
    | 'W' => some (.perl .word true, rest)
    | 'a' => literal '\x07'
    | 'f' => literal '\x0c'
    | 't' => literal '\t'
    | 'n' => literal '\n'
    | 'r' => literal '\r'
    | 'v' => literal '\x0b'
    | 'A' => some (.textStart, rest)
    | 'z' => some (.textEnd, rest)
    | 'b' => wordBoundaryEscape ignoreBlank rest
    | 'B' => some (.wordLook .notBoundary, rest)
    | '<' => some (.wordLook .start, rest)
    | '>' => some (.wordLook .stop, rest)
    | _ => if isEscapable c then literal c else none

end Guideline.Pattern
