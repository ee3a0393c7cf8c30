/-!
# Blank characters

White space is the Unicode property of that name. Trimming removes it from one or both ends of a
text, and words are the runs of other characters.
-/

namespace Guideline.Text

/-- White space: tab to carriage return, space, and the separators of the other scripts. -/
def isBlank (c : Char) : Bool :=
  let n := c.toNat
  (9 ≤ n && n ≤ 13) || n == 0x20 || n == 0x85 || n == 0xA0 || n == 0x1680
    || (0x2000 ≤ n && n ≤ 0x200A) || n == 0x2028 || n == 0x2029 || n == 0x202F || n == 0x205F
    || n == 0x3000

def trimStart (cs : List Char) : List Char :=
  cs.dropWhile isBlank

def trimEnd (cs : List Char) : List Char :=
  (cs.reverse.dropWhile isBlank).reverse

def trim (cs : List Char) : List Char :=
  trimEnd (trimStart cs)

/-- A text of white space only. -/
def allBlank (cs : List Char) : Bool :=
  cs.all isBlank

/-- The runs of characters other than white space, given the run read so far. -/
def wordsFrom (run : List Char) : List Char → List (List Char)
  | [] => if run.isEmpty then [] else [run]
  | c :: rest =>
    if isBlank c then
      if run.isEmpty then wordsFrom [] rest else run :: wordsFrom [] rest
    else wordsFrom (run ++ [c]) rest

/-- The words of a text: its runs of characters other than white space. -/
def words (cs : List Char) : List (List Char) :=
  wordsFrom [] cs

end Guideline.Text
