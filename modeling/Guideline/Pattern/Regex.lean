import Guideline.Pattern.CharClass

/-!
# Regular expressions

Regular expressions over characters, with assertions about the places between them. Whether a text
has a match is decided by sets of places: `Regex.run` maps the places where a match may start to
the places where it may end. A set of places holds one flag for the place before each character and
one for the end of the text.
-/

namespace Guideline.Pattern

/-- An assertion about a place in a text. Those about words go by the ASCII characters of words
when `ascii` holds. -/
inductive Look where
  | textStart
  | textEnd
  | lineStart
  | lineEnd
  /-- The start of a line, where a carriage return may end lines too. -/
  | anyLineStart
  /-- The end of a line, where a carriage return may end lines too. -/
  | anyLineEnd
  | wordBoundary (ascii : Bool)
  | notWordBoundary (ascii : Bool)
  | wordStart (ascii : Bool)
  | wordEnd (ascii : Bool)
  /-- No word goes on to the left of the place. -/
  | wordStartHalf (ascii : Bool)
  /-- No word goes on to the right of the place. -/
  | wordEndHalf (ascii : Bool)
deriving DecidableEq, Repr

namespace Look

/-- The character next to a place belongs to a word. -/
def inWord (ascii : Bool) (c : Option Char) : Bool :=
  c.any fun c => if ascii then c.isAlphanum || c == '_' else Unicode.isWordChar c

/-- The assertion holds between the characters `before` and `after`; at the ends of the text there
is none. -/
def holds (look : Look) (before after : Option Char) : Bool :=
  match look with
  | .textStart => before.isNone
  | .textEnd => after.isNone
  | .lineStart => before.isNone || before == some '\n'
  | .lineEnd => after.isNone || after == some '\n'
  | .anyLineStart =>
    before.isNone || before == some '\n' || (before == some '\r' && after != some '\n')
  | .anyLineEnd =>
    after.isNone || after == some '\r' || (after == some '\n' && before != some '\r')
  | .wordBoundary ascii => inWord ascii before != inWord ascii after
  | .notWordBoundary ascii => inWord ascii before == inWord ascii after
  | .wordStart ascii => !inWord ascii before && inWord ascii after
  | .wordEnd ascii => inWord ascii before && !inWord ascii after
  | .wordStartHalf ascii => !inWord ascii before
  | .wordEndHalf ascii => !inWord ascii after

end Look

inductive Regex where
  | empty
  | look (l : Look)
  | set (c : CharClass)
  | cat (a b : Regex)
  | alt (a b : Regex)
  /-- At least `min` times, and at most `max` times if there is a bound. -/
  | rep (a : Regex) (min : Nat) (max : Option Nat)
deriving DecidableEq, Repr

/-- A set of places of a text. -/
abbrev Places := List Bool

namespace Places

def union (s t : Places) : Places :=
  s.zipWith (· || ·) t

def isEmpty (s : Places) : Bool :=
  !s.any id

/-- Follows `f` exactly `n` times. -/
def iterate (f : Places → Places) : Nat → Places → Places
  | 0, s => s
  | n + 1, s => if s.isEmpty then s else iterate f n (f s)

/-- Follows `f` up to `n` times, keeping all places on the way. -/
def closure (f : Places → Places) : Nat → Places → Places
  | 0, s => s
  | n + 1, s =>
    let next := s.union (f s)
    if next = s then s else closure f n next

end Places

/-- The characters on both sides of each place, given the one before the first place. -/
def sides (before : Option Char) : List Char → List (Option Char × Option Char)
  | [] => [(before, none)]
  | c :: rest => (before, some c) :: sides (some c) rest

namespace Regex

/-- The places where a match that starts in `s` may end. -/
def run (text : List Char) : Regex → Places → Places
  | .empty, s => s
  | .look l, s => (sides none text).zipWith (fun (before, after) b => b && l.holds before after) s
  | .set c, s => false :: text.zipWith (fun d b => b && c.contains d) s
  | .cat a b, s => run text b (run text a s)
  | .alt a b, s => (run text a s).union (run text b s)
  | .rep a min max, s =>
    let more := match max with
      | some max => max - min
      | none => text.length + 1
    Places.closure (run text a) more (Places.iterate (run text a) min s)

/-- Some part of the text matches. -/
def isMatch (r : Regex) (text : List Char) : Bool :=
  !(r.run text (List.replicate (text.length + 1) true)).isEmpty

end Regex

end Guideline.Pattern
