import Guideline.Text.Digit

/-!
# Sets of code points

A set of code points is a list of closed intervals. Tables are written in hexadecimal with a blank
between the intervals, as in `41-5A AA`.
-/

namespace Guideline.Unicode

/-- A set of code points as closed intervals. -/
abbrev Ranges := List (Nat × Nat)

namespace Ranges

def contains (ranges : Ranges) (c : Char) : Bool :=
  ranges.any fun (lo, hi) => lo ≤ c.toNat && c.toNat ≤ hi

/-- Adds an interval to intervals that start no later, joining it with the last one where they
touch. -/
def joinLast (joined : Ranges) (next : Nat × Nat) : Ranges :=
  match joined with
  | (lo, hi) :: rest => if next.1 ≤ hi + 1 then (lo, max hi next.2) :: rest else next :: joined
  | [] => [next]

/-- The same set as intervals in order that do not touch. -/
def merge (ranges : Ranges) : Ranges :=
  ((ranges.mergeSort fun a b => a.1 ≤ b.1).foldl joinLast []).reverse

/-- The code points from `start` on that are not in intervals in order. -/
def gaps (start : Nat) : Ranges → Ranges
  | [] => if start ≤ 0x10FFFF then [(start, 0x10FFFF)] else []
  | (lo, hi) :: rest =>
    if start < lo then (start, lo - 1) :: gaps (hi + 1) rest else gaps (hi + 1) rest

/-- The code points that are in two lists of intervals in order. -/
def inter (a b : Ranges) : Ranges :=
  gaps 0 (merge (gaps 0 a ++ gaps 0 b))

/-- The parts of the intervals between `least` and `most`. -/
def between (ranges : Ranges) (least most : Nat) : Ranges :=
  (ranges.map fun (lo, hi) => (max lo least, min hi most)).filter fun (lo, hi) => lo ≤ hi

/-- A table read up to some character: the intervals so far, the lower end of the interval being
read if its dash has been seen, and the number being read. -/
structure Reading where
  done : Ranges := []
  low : Option Nat := none
  number : Nat := 0

def Reading.close (r : Reading) : Ranges :=
  (r.low.getD r.number, r.number) :: r.done

def Reading.step (r : Reading) (c : Char) : Reading :=
  if c = ' ' then ⟨r.close, none, 0⟩
  else if c = '-' then ⟨r.done, some r.number, 0⟩
  else ⟨r.done, r.low, r.number * 16 + (Text.hexDigit? c).getD 0⟩

/-- Reads one row of a table. -/
def ofRow (row : String) : Ranges :=
  (row.toList.foldl Reading.step {}).close.reverse

/-- Reads a table of intervals, row by row. -/
def ofRows (rows : List String) : Ranges :=
  rows.flatMap ofRow

end Ranges

end Guideline.Unicode
