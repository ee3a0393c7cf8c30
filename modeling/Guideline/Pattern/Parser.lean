import Guideline.Pattern.Bracket
import Guideline.Pattern.Size

/-!
# The pattern syntax

Reads a pattern into a regular expression. Groups and alternations that are still open wait on a
stack; `(?flags)` changes how the rest of its group is read. Whether repetitions are greedy makes
no difference to whether a text matches, so it is read and forgotten.
-/

namespace Guideline.Pattern

/-- A part of a pattern with the depth of its nesting and the size of its automaton. -/
structure Node where
  regex : Regex
  depth : Nat := 0
  size : Nat := stateSize
  /-- A change of flags, which cannot be repeated. -/
  isDirective : Bool := false
deriving Repr

/-- What an open part of a pattern waits for. -/
inductive Frame where
  /-- The end of a group after the parts `before`; then the flags are `flags` again. The group
  may be numbered or named. -/
  | group (before : List Node) (flags : Flags) (isNumbered : Bool)
  /-- Further branches beside these, last one first. -/
  | alternation (branches : List Node)
deriving Repr

/-- A pattern read up to some character: the parts of the current branch, last one first, and what
it is inside of. -/
structure PatternState where
  rest : List Char
  flags : Flags := {}
  parts : List Node := []
  stack : List Frame := []
  /-- The names of the groups so far. -/
  names : List (List Char) := []
deriving Repr

/-- The parts of a branch one after the other. -/
def catNode : List Node → Node
  | [] => { regex := .empty }
  | [part] => { part with isDirective := false }
  | part :: parts =>
    { regex := parts.foldl (fun r p => .cat p.regex r) part.regex
      depth := 1 + (parts.map (·.depth)).foldl max part.depth
      size := (parts.map (·.size)).foldl (· + ·) part.size }

/-- The branches of an alternation, last one first, as one part. -/
def altNode : List Node → Node
  | [] => { regex := .empty }
  | [branch] => branch
  | branch :: branches =>
    { regex := branches.foldl (fun r b => .alt b.regex r) branch.regex
      depth := 1 + (branches.map (·.depth)).foldl max branch.depth
      size := (branches.map (·.size)).foldl (· + ·) (branch.size + 2 * stateSize) }

/-- The current branch, joined with the branches before it, and the stack below them. -/
def finishBranches (parts : List Node) : List Frame → Node × List Frame
  | .alternation branches :: stack => (altNode (catNode parts :: branches), stack)
  | stack => (catNode parts, stack)

/-! ### Groups -/

/-- Sets the flag with the given letter. -/
def Flags.set? (flags : Flags) (letter : Char) (value : Bool) : Option Flags :=
  match letter with
  | 'i' => some { flags with caseInsensitive := value }
  | 'm' => some { flags with multiLine := value }
  | 's' => some { flags with dotAll := value }
  | 'U' => some { flags with swapGreed := value }
  | 'u' => some { flags with unicode := value }
  | 'R' => some { flags with crlf := value }
  | 'x' => some { flags with ignoreBlank := value }
  | _ => none

/-- Reads flags up to the `:` or `)` that ends them, which it gives with what follows. No flag may
occur twice, and a minus stands once and before a flag. -/
def readFlags (flags : Flags) (seen : List Char) : List Char → Option (Flags × Char × List Char)
  | [] => none
  | c :: rest =>
    if c = ':' || c = ')' then
      if seen.head? = some '-' then none else some (flags, c, rest)
    else if seen.contains c then none
    else if c = '-' then readFlags flags (c :: seen) rest
    else (flags.set? c (!seen.contains '-')).bind fun flags => readFlags flags (c :: seen) rest

/-- Characters of group names. -/
def isNameChar (isFirst : Bool) (c : Char) : Bool :=
  if isFirst then c == '_' || Unicode.isAlphabetic c
  else c == '_' || c == '.' || c == '[' || c == ']' || Unicode.isAlphanumeric c

/-- A name that a group can have. -/
def isGroupName : List Char → Bool
  | [] => false
  | c :: rest => isNameChar true c && rest.all (isNameChar false)

/-- Opens a group whose content is read with `flags`. -/
def PatternState.openGroup (s : PatternState) (isNumbered : Bool) (flags : Flags)
    (rest : List Char) : PatternState :=
  { s with rest, flags, parts := [], stack := .group s.parts s.flags isNumbered :: s.stack }

/-- Opens a named group, read from the start of its name on. -/
def PatternState.openNamed (s : PatternState) (rest : List Char) : Option PatternState :=
  let name := rest.takeWhile (· ≠ '>')
  match rest.dropWhile (· ≠ '>') with
  | [] => none
  | _ :: after =>
    if isGroupName name && !s.names.contains name then
      some { s.openGroup true s.flags after with names := name :: s.names }
    else none

/-- Reads the start of a group after its parenthesis. There are no assertions about the text
around a match. -/
def PatternState.readGroup (s : PatternState) (rest : List Char) : Option PatternState :=
  match skip s.flags.ignoreBlank rest with
  | '?' :: '=' :: _ | '?' :: '!' :: _ | '?' :: '<' :: '=' :: _ | '?' :: '<' :: '!' :: _ => none
  | '?' :: 'P' :: '<' :: after => s.openNamed after
  | '?' :: '<' :: after => s.openNamed after
  | '?' :: after =>
    match readFlags s.flags [] after with
    | some (flags, ')', rest) =>
      if after.head? = some ')' then none
      else some { s with rest, flags, parts := { regex := .empty, isDirective := true } :: s.parts }
    | some (flags, _, rest) => some (s.openGroup false flags rest)
    | none => none
  | after => some (s.openGroup true s.flags after)

/-- The end of a group. -/
def PatternState.closeGroup (s : PatternState) (rest : List Char) : Option PatternState :=
  match finishBranches s.parts s.stack with
  | (node, .group before flags isNumbered :: stack) =>
    let group : Node :=
      { regex := node.regex
        depth := node.depth + 1
        size := if isNumbered then node.size + groupSize else node.size }
    some { s with rest, flags, stack, parts := group :: before }
  | _ => none

/-- The start of another branch. -/
def PatternState.nextBranch (s : PatternState) (rest : List Char) : PatternState :=
  match s.stack with
  | .alternation branches :: stack =>
    { s with rest, parts := [], stack := .alternation (catNode s.parts :: branches) :: stack }
  | stack => { s with rest, parts := [], stack := .alternation [catNode s.parts] :: stack }

/-! ### Repetitions -/

/-- A part repeated. What only matches the empty text need not be repeated more than once. -/
def Node.repeat (part : Node) (min : Nat) (max : Option Nat) : Node :=
  let depth := part.depth + 1
  if part.regex.isEmptyOnly then
    let most := (max.map (Nat.min · 1)).getD 1
    { part with regex := .rep part.regex (Nat.min min 1) (some most), depth }
  else if max = some 0 then { regex := .empty, depth }
  else { regex := .rep part.regex min max, depth, size := repeatedSize part.size min max }

/-- Repeats the last part. -/
def PatternState.repeatLast (s : PatternState) (min : Nat) (max : Option Nat) (rest : List Char) :
    Option PatternState :=
  match s.parts with
  | [] => none
  | part :: parts =>
    if part.isDirective then none else some { s with rest, parts := part.repeat min max :: parts }

/-- Drops the question mark that makes a repetition reluctant. -/
def dropReluctant (rest : List Char) : List Char :=
  (Text.after? ['?'] rest).getD rest

/-- The digits of a count and what follows; `fuel` bounds their number. -/
def countDigits (ignoreBlank : Bool) : (fuel : Nat) → List Char → List Char × List Char
  | 0, cs => ([], cs)
  | _ + 1, [] => ([], [])
  | fuel + 1, c :: cs =>
    if c.isDigit then
      let (digits, rest) := countDigits ignoreBlank fuel (skip ignoreBlank cs)
      (c :: digits, rest)
    else ([], c :: cs)

/-- The largest count of a repetition. -/
def maxRepetition : Nat := Nat.pow 2 32 - 1

/-- Reads a count, with blanks around it. -/
def readRepetition (ignoreBlank : Bool) (cs : List Char) : Option Nat × List Char :=
  let start := Text.trimStart cs
  let (digits, rest) := countDigits ignoreBlank start.length start
  let count := if digits.isEmpty then none
    else (Text.digitsValue? 10 Text.decimalDigit? digits).filter (· ≤ maxRepetition)
  (count, skip ignoreBlank (Text.trimStart rest))

/-- Reads the bounds of a counted repetition after its brace. -/
def readBounds (ignoreBlank : Bool) (rest : List Char) : Option (Nat × Option Nat × List Char) := do
  let (first, cs) := readRepetition ignoreBlank (skip ignoreBlank rest)
  let min ← first
  let (max, cs) ← match cs with
    | ',' :: after =>
      match skip ignoreBlank after with
      | '\x7d' :: more => some (none, '\x7d' :: more)
      | more =>
        let (second, cs) := readRepetition ignoreBlank more
        second.map fun max => (some max, cs)
    | _ => some (some min, cs)
  match cs with
  | '\x7d' :: after => if max.all (min ≤ ·) then some (min, max, skip ignoreBlank after) else none
  | _ => none

/-! ### The pattern -/

/-- The regular expression of a class outside of brackets. -/
def Flags.wordLook (flags : Flags) : WordLook → Look
  | .boundary => .wordBoundary (!flags.unicode)
  | .notBoundary => .notWordBoundary (!flags.unicode)
  | .start => .wordStart (!flags.unicode)
  | .stop => .wordEnd (!flags.unicode)
  | .startHalf => .wordStartHalf (!flags.unicode)
  | .stopHalf => .wordEndHalf (!flags.unicode)

/-- The regular expression of a character. Where Unicode is off, only ASCII letters have a case. -/
def Flags.literalRegex? (flags : Flags) (l : Literal) : Option Regex :=
  (flags.literal? l).map fun c => .set (flags.fold (.char c))

/-- The regular expression of an escape. -/
def Flags.escapeRegex? (flags : Flags) : Escape → Option Regex
  | .literal l => flags.literalRegex? l
  | .textStart => some (.look .textStart)
  | .textEnd => some (.look .textEnd)
  | .wordLook w => some (.look (flags.wordLook w))
  | .perl kind negated => (flags.perl? kind negated).map .set
  | .property ranges negated => (flags.property? ranges negated).map .set

/-- Any character, line ends apart unless the flags say otherwise. -/
def Flags.dot? (flags : Flags) : Option Regex :=
  if !flags.unicode then none
  else if flags.dotAll then some (.set .any)
  else if flags.crlf then some (.set (.negate (.chars ['\r', '\n'])))
  else some (.set (.negate (.char '\n')))

def Flags.caret (flags : Flags) : Regex :=
  .look (if !flags.multiLine then .textStart else if flags.crlf then .anyLineStart else .lineStart)

def Flags.dollar (flags : Flags) : Regex :=
  .look (if !flags.multiLine then .textEnd else if flags.crlf then .anyLineEnd else .lineEnd)

/-- Adds a part to the current branch. -/
def PatternState.add (s : PatternState) (regex : Regex) (rest : List Char) : PatternState :=
  let size := match regex with
    | .set c => c.size
    | _ => stateSize
  { s with rest, parts := { regex, size } :: s.parts }

/-- Reads the next part of a pattern, which starts with `c`. -/
def PatternState.step (s : PatternState) (c : Char) (rest : List Char) : Option PatternState :=
  match c with
  | '(' => s.readGroup rest
  | ')' => s.closeGroup rest
  | '|' => some (s.nextBranch rest)
  | '[' =>
    (readClass s.flags (rest.length + 2) { rest := c :: rest }).map fun (node, rest) =>
      let part := { regex := .set node.cls, depth := node.depth, size := node.cls.size }
      { s with rest, parts := part :: s.parts }
  | '?' => s.repeatLast 0 (some 1) (dropReluctant rest)
  | '*' => s.repeatLast 0 none (dropReluctant rest)
  | '+' => s.repeatLast 1 none (dropReluctant rest)
  | '\x7b' =>
    (readBounds s.flags.ignoreBlank rest).bind fun (min, max, rest) =>
      s.repeatLast min max (dropReluctant rest)
  | '\\' =>
    (readEscape s.flags.ignoreBlank rest).bind fun (e, rest) =>
      (s.flags.escapeRegex? e).map (s.add · rest)
  | '.' => s.flags.dot?.map (s.add · rest)
  | '^' => some (s.add s.flags.caret rest)
  | '$' => some (s.add s.flags.dollar rest)
  | _ => (s.flags.literalRegex? { char := c }).map (s.add · rest)

/-- The deepest nesting of a pattern. -/
def maxDepth : Nat := 250

/-- The end of a pattern: no group may be open, and the pattern must not be too deep or too
large. -/
def PatternState.finish (s : PatternState) : Option Regex :=
  match finishBranches s.parts s.stack with
  | (node, []) => if node.depth ≤ maxDepth && node.size ≤ maxSize then some node.regex else none
  | _ => none

/-- Reads a pattern; every step reads a character, so `fuel` is enough when it is more than the
length of the pattern. -/
def PatternState.read : (fuel : Nat) → PatternState → Option Regex
  | 0, _ => none
  | fuel + 1, s =>
    match skip s.flags.ignoreBlank s.rest with
    | [] => s.finish
    | c :: rest => (s.step c rest).bind (read fuel)

/-- Reads a pattern. -/
def parse? (source : List Char) : Option Regex :=
  PatternState.read (source.length + 1) { rest := source }

end Guideline.Pattern
