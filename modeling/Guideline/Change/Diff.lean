import Guideline.Collection.Sorted
import Guideline.Path
import Guideline.Text.Blank
import Guideline.Text.Digit
import Guideline.Text.Lines

/-!
# Unified diffs

A unified diff tells which lines each file gained. Its lines are read one after the other: `+++`
names the file, `@@` opens a hunk, and inside a hunk the first character of a line tells whether it
is added, removed or context. A hunk ends when it has as many lines as its header says.
-/

namespace Guideline.Change

/-- The added lines of each file, both in order. -/
abbrev ChangedLines := List (String × List Nat)

/-- What is left of a hunk. -/
structure Hunk where
  /-- The number that the next line of the new side has. -/
  newLine : Nat
  newLeft : Nat
  oldLeft : Nat
deriving DecidableEq, Repr

/-- Reads the `start,count` of a hunk header; a missing count is 1. -/
def readRange? (cs : List Char) : Option (Nat × Nat) :=
  let start := cs.takeWhile (· ≠ ',')
  match cs.dropWhile (· ≠ ',') with
  | [] => (Text.readCount? start).map (·, 1)
  | _ :: count => do
    let start ← Text.readCount? start
    let count ← Text.readCount? count
    some (start, count)

/-- Reads a hunk header `@@ -start,count +start,count @@`. -/
def Hunk.ofHeader? (line : List Char) : Option Hunk :=
  match Text.words line with
  | _ :: ('-' :: old) :: ('+' :: new) :: _ => do
    let (_, oldLeft) ← readRange? old
    let (newLine, newLeft) ← readRange? new
    some { newLine, newLeft, oldLeft }
  | _ => none

/-- The hunk has no lines left. -/
def Hunk.isDone (h : Hunk) : Bool :=
  h.newLeft == 0 && h.oldLeft == 0

/-- A diff read up to some line. -/
structure DiffReader where
  files : ChangedLines := []
  /-- The file that hunks belong to; a deleted file is none. -/
  current : Option String := none
  hunk : Option Hunk := none
deriving Repr

namespace DiffReader

/-- Line numbers are 64-bit counts. -/
def nextLine (n : Nat) : Nat :=
  (n + 1) % (Text.maxCount + 1)

/-- Reads a line of a hunk of `file`. -/
def hunkLine (r : DiffReader) (file : String) (h : Hunk) (line : List Char) : DiffReader :=
  let keep := fun (h : Hunk) => if h.isDone then none else some h
  match line with
  | '+' :: _ =>
    { r with
      files :=
        Collection.alter Path.cmp file (fun ls => Collection.insertNat h.newLine (ls.getD [])) r.files
      hunk := keep ⟨nextLine h.newLine, h.newLeft - 1, h.oldLeft⟩ }
  | ' ' :: _ => { r with hunk := keep ⟨nextLine h.newLine, h.newLeft - 1, h.oldLeft - 1⟩ }
  | '-' :: _ => { r with hunk := keep { h with oldLeft := h.oldLeft - 1 } }
  | '\\' :: _ => { r with hunk := keep h }
  | _ => { r with hunk := none }

/-- The new side of a file header. -/
def fileHeader (r : DiffReader) (path : List Char) : DiffReader :=
  let path := Text.trimEnd path
  if path = "/dev/null".toList then { r with current := none }
  else
    let file := String.ofList ((Text.after? ['b', '/'] path).getD path)
    { r with files := Collection.alter Path.cmp file (·.getD []) r.files, current := some file }

/-- Reads a line outside of hunks. -/
def headerLine (r : DiffReader) (line : List Char) : DiffReader :=
  match Text.after? "+++ ".toList line with
  | some path => r.fileHeader path
  | none =>
    if Text.startsWith ['@', '@'] line then
      { r with hunk := (Hunk.ofHeader? line).filter (!·.isDone) }
    else r

/-- Reads one line. A hunk without a file swallows nothing. -/
def step (r : DiffReader) (line : List Char) : DiffReader :=
  match r.hunk, r.current with
  | some h, some file => r.hunkLine file h line
  | _, _ => r.headerLine line

end DiffReader

/-- The lines that a unified diff adds to each file. A file that only loses lines has none, and a
deleted file does not occur. -/
def parseDiff (diff : List Char) : ChangedLines :=
  ((Text.lines diff).foldl DiffReader.step {}).files

end Guideline.Change
