import Guideline.Text.Blank
import Guideline.Unicode.Alphanumeric
import Guideline.Unicode.CaseFold

/-!
# Character classes

A class is a set of characters built from intervals by the operations of bracketed classes.
`CharClass.contains` is its meaning.
-/

namespace Guideline.Pattern

open Unicode

inductive CharClass where
  | ranges (ranges : Ranges)
  /-- Characters of words, in every script. -/
  | word
  /-- White space, in every script. -/
  | blank
  | negate (a : CharClass)
  | union (a b : CharClass)
  | inter (a b : CharClass)
  | diff (a b : CharClass)
  | symDiff (a b : CharClass)
  /-- With every character those that differ from it in case only. -/
  | fold (a : CharClass)
  /-- With every ASCII letter the one that differs from it in case only. -/
  | foldAscii (a : CharClass)
deriving DecidableEq, Repr

namespace CharClass

def contains : CharClass → Char → Bool
  | .ranges r, c => r.contains c
  | .word, c => isWordChar c
  | .blank, c => Text.isBlank c
  | .negate a, c => !a.contains c
  | .union a b, c => a.contains c || b.contains c
  | .inter a b, c => a.contains c && b.contains c
  | .diff a b, c => a.contains c && !b.contains c
  | .symDiff a b, c => a.contains c != b.contains c
  | .fold a, c => (caseOrbit c).any a.contains
  | .foldAscii a, c => a.contains c || (c.isAlpha && a.contains (swapAsciiCase c))

/-- The class without characters. -/
def none : CharClass := .ranges []

/-- The class of all characters. -/
def any : CharClass := .ranges [(0, 0x10FFFF)]

/-- The class of one character. -/
def char (c : Char) : CharClass := .ranges [(c.toNat, c.toNat)]

/-- The class of the given characters. -/
def chars (cs : List Char) : CharClass := .ranges (cs.map fun c => (c.toNat, c.toNat))

/-- The characters between two, ends included. -/
def between (lo hi : Char) : CharClass := .ranges [(lo.toNat, hi.toNat)]

/-- The ASCII class with the given name. -/
def ascii? (name : String) : Option CharClass :=
  let of := fun pairs : List (Char × Char) =>
    some (CharClass.ranges (pairs.map fun (lo, hi) => (lo.toNat, hi.toNat)))
  match name with
  | "alnum" => of [('0', '9'), ('A', 'Z'), ('a', 'z')]
  | "alpha" => of [('A', 'Z'), ('a', 'z')]
  | "ascii" => of [('\x00', '\x7f')]
  | "blank" => of [('\t', '\t'), (' ', ' ')]
  | "cntrl" => of [('\x00', '\x1f'), ('\x7f', '\x7f')]
  | "digit" => of [('0', '9')]
  | "graph" => of [('!', '~')]
  | "lower" => of [('a', 'z')]
  | "print" => of [(' ', '~')]
  | "punct" => of [('!', '/'), (':', '@'), ('[', '\x60'), ('\x7b', '~')]
  | "space" => of [('\t', '\r'), (' ', ' ')]
  | "upper" => of [('A', 'Z')]
  | "word" => of [('0', '9'), ('A', 'Z'), ('_', '_'), ('a', 'z')]
  | "xdigit" => of [('0', '9'), ('A', 'F'), ('a', 'f')]
  | _ => Option.none

end CharClass

end Guideline.Pattern
