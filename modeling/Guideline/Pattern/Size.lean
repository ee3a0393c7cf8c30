import Guideline.Pattern.Regex

/-!
# Sizes of patterns

A pattern is refused if its automaton takes too much room. The automaton reads bytes: an ASCII
character or class is one step, and any other class is a tree of the byte ranges that its characters
are written with.
-/

namespace Guideline.Pattern

open Unicode

/-- The room of a state, in bytes. -/
def stateSize : Nat := 32

/-- The room of a state with a choice between two ways. -/
def choiceSize : Nat := stateSize + 8

/-- The room of a group that is numbered or named: a state for its start and one for its end. -/
def groupSize : Nat := 2 * stateSize

/-- The room that an automaton may take. -/
def maxSize : Nat := 10 * 1024 * 1024

/-! ### Classes -/

/-- A run of characters as ranges of their bytes, one for each byte. -/
abbrev ByteRanges := List (Nat × Nat)

/-- The runs that the characters from `lo` to `hi` split into, where `n` bytes of six bits each
follow the first one. In a run the bytes vary independently. -/
def byteRuns : (n lo hi : Nat) → List ByteRanges
  | 0, lo, hi => [[(lo, hi)]]
  | n + 1, lo, hi =>
    let unit := Nat.pow 64 (n + 1)
    let first := lo / unit
    let last := hi / unit
    let within := fun lead lo hi => (byteRuns n lo hi).map ((lead, lead) :: ·)
    if first = last then within first (lo % unit) (hi % unit)
    else
      let start := if lo % unit = 0 then first else first + 1
      let stop := if hi % unit = unit - 1 then last + 1 else last
      (if start = first then [] else within first (lo % unit) (unit - 1))
        ++ (if start < stop then [(start, stop - 1) :: List.replicate (n + 1) (0, 63)] else [])
        ++ (if stop = last then within last 0 (hi % unit) else [])

/-- The characters by the number of bytes that follow the first one. -/
def planes : List (Nat × Nat × Nat) :=
  [(0, 0x7F, 0), (0x80, 0x7FF, 1), (0x800, 0xD7FF, 2), (0xE000, 0xFFFF, 2), (0x10000, 0x10FFFF, 3)]

/-- The runs of a set of characters. -/
def rangeRuns (ranges : Ranges) : List ByteRanges :=
  ranges.flatMap fun (lo, hi) =>
    planes.flatMap fun (least, most, n) =>
      let lo := max lo least
      let hi := min hi most
      if lo ≤ hi then byteRuns n lo hi else []

/-- How many ranges two runs of one length have in common at their starts. -/
def commonLength : ByteRanges → ByteRanges → Nat
  | a :: as, b :: bs => if a = b && as.length = bs.length then commonLength as bs + 1 else 0
  | _, _ => 0

/-- The states of the tree of runs that starts with the run before: what a run has in common with
the run before it is there already. -/
def treeStates (before : ByteRanges) : List ByteRanges → Nat
  | [] => 0
  | run :: rest => run.length - commonLength before run + treeStates run rest

/-- The room of a class of more than one character with the given ranges. -/
def rangesSize (ranges : Ranges) : Nat :=
  let runs := rangeRuns ranges
  if runs.all (·.length = 1) then 2 * stateSize + 8 * runs.length
  else stateSize * (2 + treeStates [] runs) + 4 * runs.length

namespace CharClass

/-- The word characters in order. -/
def wordRanges : Ranges :=
  Ranges.merge ([(0x41, 0x5A), (0x5F, 0x5F), (0x61, 0x7A), (0x200C, 0x200D)] ++ alphabeticTable
    ++ wordTable)

/-- The white space in order. -/
def blankRanges : Ranges :=
  [(0x9, 0xD), (0x20, 0x20), (0x85, 0x85), (0xA0, 0xA0), (0x1680, 0x1680), (0x2000, 0x200A),
    (0x2028, 0x2029), (0x202F, 0x202F), (0x205F, 0x205F), (0x3000, 0x3000)]

/-- The letters that differ in case only from an ASCII letter in `r`. -/
def otherAsciiCases (r : Ranges) : Ranges :=
  ((r.between 0x41 0x5A).map fun (lo, hi) => (lo + 0x20, hi + 0x20))
    ++ (r.between 0x61 0x7A).map fun (lo, hi) => (lo - 0x20, hi - 0x20)

/-- The characters that differ in case only from one in `r`. -/
def otherCases (r : Ranges) : Ranges :=
  let isIn := fun n : Nat => r.any fun (lo, hi) => lo ≤ n && n ≤ hi
  otherAsciiCases r ++ (orbitTable.filter (·.any isIn)).flatMap (·.map fun n => (n, n))

/-- The characters of a class as intervals in order that do not touch. -/
def toRanges : CharClass → Ranges
  | .ranges r => r.merge
  | .word => wordRanges
  | .blank => blankRanges
  | .negate a => Ranges.gaps 0 a.toRanges
  | .union a b => Ranges.merge (a.toRanges ++ b.toRanges)
  | .inter a b => Ranges.inter a.toRanges b.toRanges
  | .diff a b => Ranges.inter a.toRanges (Ranges.gaps 0 b.toRanges)
  | .symDiff a b =>
    Ranges.inter (Ranges.merge (a.toRanges ++ b.toRanges))
      (Ranges.gaps 0 (Ranges.inter a.toRanges b.toRanges))
  | .fold a => Ranges.merge (a.toRanges ++ otherCases a.toRanges)
  | .foldAscii a => Ranges.merge (a.toRanges ++ otherAsciiCases a.toRanges)

/-- The room of the class of word characters. -/
def wordSize : Nat := rangesSize wordRanges

/-- The room of a class. One character is as many states as it has bytes. -/
def size : CharClass → Nat
  | .word => wordSize
  | c =>
    match c.toRanges with
    | [] => stateSize
    | [(lo, hi)] =>
      if lo = hi then stateSize * (Char.ofNat lo).utf8Size else rangesSize [(lo, hi)]
    | r => rangesSize r

end CharClass

/-! ### Expressions -/

namespace Regex

/-- Only the empty text can match. -/
def isEmptyOnly : Regex → Bool
  | .empty | .look _ => true
  | .set _ => false
  | .cat a b | .alt a b => a.isEmptyOnly && b.isEmptyOnly
  | .rep a _ max => a.isEmptyOnly || max = some 0

end Regex

/-- The room of a repetition of a part of size `size`: it is copied as often as it is counted. -/
def repeatedSize (size min : Nat) : (max : Option Nat) → Nat
  | none => Nat.max min 1 * size + choiceSize
  | some max => Nat.max max 1 * size + (max - min) * choiceSize + stateSize

end Guideline.Pattern
