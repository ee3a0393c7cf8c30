import Guideline.Source.Scope
import Guideline.Text.Utf8

/-!
# Statements

A statement is the masked code up to a `;`, `{` or `}`, its lines joined by blanks and its leading
labels removed. Every character keeps the line it came from, so an offset into the statement leads
back to a line of the file.
-/

namespace Guideline.Source

/-- A character and the line it stands on. -/
structure Located where
  char : Char
  line : Nat
deriving DecidableEq, Repr

/-- The characters of located text. -/
def chars (text : List Located) : List Char :=
  text.map Located.char

/-- The line of every byte of located text. -/
def lineMap (text : List Located) : List Nat :=
  text.flatMap fun l => List.replicate l.char.utf8Size l.line

/-- How a statement ends. -/
inductive Ending where
  /-- At a `;` outside parentheses. -/
  | semicolon
  /-- At a `{` that opens a block of this kind. -/
  | opens (kind : Scope)
  /-- At the `}` of the block around it. -/
  | closes
deriving DecidableEq, Repr

structure Statement where
  located : List Located
  ending : Ending
  /-- The kind of the innermost block around the statement. -/
  scope : Scope
  /-- The name of the innermost class around the statement. -/
  className : Option String
deriving DecidableEq, Repr

namespace Statement

def text (s : Statement) : List Char :=
  chars s.located

/-- The line of the byte at `offset`; past the end, the line of the last byte. -/
def lineAt (s : Statement) (offset : Nat) : Nat :=
  let lines := lineMap s.located
  (lines[offset]?.or lines.getLast?).getD 1

def firstLine (s : Statement) : Nat :=
  s.lineAt 0

end Statement

/-! ### Labels -/

/-- The number of characters before the first `:` that is not part of `::`. -/
def singleColon? : List Char → Option Nat
  | [] => none
  | ':' :: ':' :: rest => (singleColon? rest).map (· + 2)
  | c :: rest => if c = ':' then some 0 else (singleColon? rest).map (· + 1)

def accessLabels : List String := ["public", "private", "protected", "default"]

/-- The number of characters of the access, `default` or `case` label at the start of a text,
blanks before it and its colon included. -/
def labelLength? (cs : List Char) : Option Nat :=
  let trimmed := cs.dropWhile Text.isBlank
  let after := trimmed.dropWhile isIdentChar
  let word := String.ofList (trimmed.takeWhile isIdentChar)
  let colon? :=
    if accessLabels.contains word then
      match after.dropWhile Text.isBlank with
      | ':' :: ':' :: _ => none
      | ':' :: rest => some (after.length - rest.length - 1)
      | _ => none
    else if word = "case" then singleColon? after
    else none
  colon?.map fun n => cs.length - after.length + n + 1

theorem labelLength?_nil : labelLength? [] = none := by
  decide

theorem pos_of_labelLength? {cs : List Char} {n : Nat} (h : labelLength? cs = some n) : 0 < n := by
  unfold labelLength? at h
  simp only [Option.map_eq_some_iff] at h
  obtain ⟨k, _, rfl⟩ := h
  omega

theorem sub_labelLength?_lt {cs : List Char} {n : Nat} (h : labelLength? cs = some n) :
    cs.length - n < cs.length := by
  have hpos := pos_of_labelLength? h
  cases cs with
  | nil => rw [labelLength?_nil] at h; cases h
  | cons c rest => simp only [List.length_cons]; omega

/-- The number of characters of all labels at the start of a text. -/
def labelsLength (cs : List Char) : Nat :=
  match h : labelLength? cs with
  | some n =>
    have := sub_labelLength?_lt h
    n + labelsLength (cs.drop n)
  | none => 0
termination_by cs.length

/-- Located text without white space at its ends. -/
def trimLocated (text : List Located) : List Located :=
  let blank := fun l : Located => Text.isBlank l.char
  ((text.dropWhile blank).reverse.dropWhile blank).reverse

/-- Located text without its leading labels and the white space at its ends. -/
def stripLabels (text : List Located) : List Located :=
  trimLocated (text.drop (labelsLength (chars text)))

end Guideline.Source
