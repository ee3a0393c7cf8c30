import Guideline.Proofs.Change.Edit
import Guideline.Proofs.Text.Affix
import Guideline.Proofs.Text.Lines
import Guideline.Proofs.Text.Printed
import Mathlib.Data.List.TakeWhile
import Mathlib.Tactic.MkIffOfInductiveProp

/-!
# Printed hunks

A hunk as a version-control tool prints it: a header with the start and length of both sides, then
its lines. The lengths are those of the body, so they agree with it. Read inside a file, a hunk adds
exactly its added lines, and the reader has left it afterwards (`reads_lines`); without its header it
is passed over (`reads_body_of_isBetween`).
-/

namespace Guideline.Change

/-- A line of a hunk. -/
inductive BodyLine where
  | context (text : List Char)
  | added (text : List Char)
  | removed (text : List Char)
  /-- The note that the line before it ends its file without a line feed. -/
  | noNewline
deriving DecidableEq, Repr

namespace BodyLine

def print : BodyLine → List Char
  | context text => ' ' :: text
  | added text => '+' :: text
  | removed text => '-' :: text
  | noNewline => '\\' :: " No newline at end of file".toList

/-- The line belongs to the file before the change. -/
def isOld : BodyLine → Bool
  | context _ | removed _ => true
  | added _ | noNewline => false

/-- The line belongs to the file after the change. -/
def isNew : BodyLine → Bool
  | context _ | added _ => true
  | removed _ | noNewline => false

def isAdded : BodyLine → Bool
  | added _ => true
  | _ => false

end BodyLine

def oldCount (body : List BodyLine) : Nat :=
  body.countP BodyLine.isOld

def newCount (body : List BodyLine) : Nat :=
  body.countP BodyLine.isNew

/-- The numbers of the added lines of a body whose first new line has the number `n`. -/
def addedFrom (n : Nat) : List BodyLine → List Nat
  | [] => []
  | .added _ :: body => n :: addedFrom (n + 1) body
  | .context _ :: body => addedFrom (n + 1) body
  | .removed _ :: body | .noNewline :: body => addedFrom n body

/-- The start and the length of one side of a hunk; a length of 1 is left out. -/
def printRange (start count : Nat) : List Char :=
  Nat.toDigits 10 start ++ if count = 1 then [] else ',' :: Nat.toDigits 10 count

structure PrintedHunk where
  oldStart : Nat
  newStart : Nat
  /-- What follows the second `@@`. -/
  heading : List Char
  body : List BodyLine
deriving DecidableEq, Repr

namespace PrintedHunk

def header (h : PrintedHunk) : List Char :=
  ['@', '@'] ++ ' ' :: (('-' :: printRange h.oldStart (oldCount h.body)) ++
    ' ' :: (('+' :: printRange h.newStart (newCount h.body)) ++ ' ' :: '@' :: '@' :: h.heading))

def lines (h : PrintedHunk) : List (List Char) :=
  h.header :: h.body.map BodyLine.print

/-- The numbers of the lines that the hunk adds. -/
def addedLines (h : PrintedHunk) : List Nat :=
  addedFrom h.newStart h.body

/-- The lines of the hunk are lines, and its numbers are 64-bit counts, up to the last of its new
lines. It may have no lines at all. -/
@[mk_iff]
structure Readable (h : PrintedHunk) : Prop where
  heading : '\n' ∉ h.heading
  body : ∀ l ∈ h.body, '\n' ∉ l.print
  oldStart : h.oldStart ≤ Text.maxCount
  oldCount : oldCount h.body ≤ Text.maxCount
  newStart : h.newStart ≤ Text.maxCount
  newCount : newCount h.body ≤ Text.maxCount
  last : h.newStart + Change.newCount h.body ≤ Text.maxCount + 1

instance (h : PrintedHunk) : Decidable h.Readable :=
  decidable_of_iff _ h.readable_iff.symm

/-- The hunk can be read and has a line. -/
@[mk_iff]
structure WellFormed (h : PrintedHunk) : Prop extends Readable h where
  changes : 0 < Change.oldCount h.body + Change.newCount h.body

instance (h : PrintedHunk) : Decidable h.WellFormed :=
  decidable_of_iff _ h.wellFormed_iff.symm

end PrintedHunk

/-! ### Added lines -/

theorem addedFrom_eq_nil_iff {body : List BodyLine} {n : Nat} :
    addedFrom n body = [] ↔ ∀ l ∈ body, l.isAdded = false := by
  induction body generalizing n with
  | nil => simp [addedFrom]
  | cons l body ih => cases l <;> simp [addedFrom, ih, BodyLine.isAdded]

theorem addedFrom_eq_nil_of_newCount {body : List BodyLine} (h : newCount body = 0) (n : Nat) :
    addedFrom n body = [] := by
  refine addedFrom_eq_nil_iff.2 fun l hl => ?_
  have hnew := List.countP_eq_zero.1 h l hl
  cases l <;> simp_all [BodyLine.isNew, BodyLine.isAdded]

theorem bounds_of_mem_addedFrom {body : List BodyLine} {n m : Nat} (h : m ∈ addedFrom n body) :
    n ≤ m ∧ m < n + newCount body := by
  induction body generalizing n with
  | nil => simp [addedFrom] at h
  | cons l body ih =>
    cases l with
    | added text =>
      simp only [addedFrom, List.mem_cons] at h
      simp only [newCount, List.countP_cons, BodyLine.isNew] at ih ⊢
      rcases h with rfl | h
      · simp
      · have := ih h; simp; omega
    | context text =>
      have := ih h
      simp only [newCount, List.countP_cons, BodyLine.isNew] at this ⊢
      simp; omega
    | removed text | noNewline =>
      have := ih h
      simpa [newCount, BodyLine.isNew] using this

/-! ### Reading headers -/

/-- The marks that a line outside of hunks is read by. -/
abbrev nameMark : List Char := ['+', '+', '+', ' ']

abbrev hunkMark : List Char := ['@', '@']

theorem reads_of_not_mark {p : Place} (hp : p.IsBetween) {line : List Char}
    (hname : ¬ nameMark <+: line) (hhunk : ¬ hunkMark <+: line) : Reads p [line] [] p := by
  intro files
  show (p.reader files).step line = _
  have hafter : Text.after? "+++ ".toList line = none := Text.after?_eq_none_iff.2 hname
  have hstart : Text.startsWith ['@', '@'] line = false := by
    rw [Text.startsWith, Text.after?_eq_none_iff.2 hhunk]; rfl
  rw [step_of_isBetween hp, DiffReader.headerLine, hafter]
  simp only [hstart]
  rfl

theorem readRange?_printRange {start count : Nat} (hs : start ≤ Text.maxCount)
    (hc : count ≤ Text.maxCount) : readRange? (printRange start count) = some (start, count) := by
  have hdigits : ∀ c ∈ Nat.toDigits 10 start, decide (c ≠ ',') = true := by
    intro c hmem
    have := Text.isDigit_of_mem_decimal hmem
    by_contra h
    simp_all
  rw [readRange?, printRange]
  by_cases h : count = 1
  · rw [if_pos h, List.append_nil, List.takeWhile_eq_self_iff.2 hdigits,
      List.dropWhile_eq_nil_iff.2 hdigits]
    simp [Text.readCount?_decimal hs, h]
  · rw [if_neg h, List.takeWhile_append_of_pos hdigits, List.dropWhile_append_of_pos hdigits]
    simp [Text.readCount?_decimal hs, Text.readCount?_decimal hc]

theorem mem_printRange {start count : Nat} {c : Char} (h : c ∈ printRange start count) :
    c.isDigit ∨ c = ',' := by
  rw [printRange, List.mem_append] at h
  rcases h with h | h
  · exact .inl (Text.isDigit_of_mem_decimal h)
  · split_ifs at h
    · simp at h
    · rcases List.mem_cons.1 h with rfl | h
      · exact .inr rfl
      · exact .inl (Text.isDigit_of_mem_decimal h)

theorem not_isBlank_of_mem_printRange {start count : Nat} {c : Char}
    (h : c ∈ printRange start count) : Text.isBlank c = false := by
  rcases mem_printRange h with h | rfl
  · exact Text.not_isBlank_of_isDigit h
  · decide

theorem ne_return_of_mem_printRange {start count : Nat} : '\r' ∉ printRange start count := fun h =>
  absurd (not_isBlank_of_mem_printRange h) (by decide)

/-- The hunk, unless it has no lines left. -/
def Hunk.left? (h : Hunk) : Option Hunk :=
  if h.isDone then none else some h

/-- A hunk as its header opens it. -/
def PrintedHunk.opened (h : PrintedHunk) : Hunk :=
  ⟨h.newStart, newCount h.body, oldCount h.body⟩

namespace PrintedHunk

variable {h : PrintedHunk}

theorem chomp_header (h : PrintedHunk) : Text.chomp h.header =
    ['@', '@'] ++ ' ' :: (('-' :: printRange h.oldStart (Change.oldCount h.body)) ++
      ' ' :: (('+' :: printRange h.newStart (Change.newCount h.body)) ++
        ' ' :: '@' :: '@' :: Text.chomp h.heading)) := by
  simp only [header, List.cons_append, List.nil_append, Text.chomp_append ne_return_of_mem_printRange,
    Text.chomp_cons (show '@' ≠ '\r' by decide), Text.chomp_cons (show ' ' ≠ '\r' by decide),
    Text.chomp_cons (show '-' ≠ '\r' by decide), Text.chomp_cons (show '+' ≠ '\r' by decide)]

theorem words_header (h : PrintedHunk) : ∃ rest, Text.words (Text.chomp h.header) =
    ['@', '@'] :: ('-' :: printRange h.oldStart (Change.oldCount h.body)) ::
      ('+' :: printRange h.newStart (Change.newCount h.body)) :: rest := by
  have hrange : ∀ (m : Char) (start count : Nat), Text.isBlank m = false →
      ∀ c ∈ m :: printRange start count, Text.isBlank c = false := by
    intro m start count hm c hc
    rcases List.mem_cons.1 hc with rfl | hc
    · exact hm
    · exact not_isBlank_of_mem_printRange hc
  have hmark : ∀ c ∈ ['@', '@'], Text.isBlank c = false := by
    intro c hc
    obtain rfl : c = '@' := by simpa using hc
    decide
  refine ⟨Text.words ('@' :: '@' :: Text.chomp h.heading), ?_⟩
  rw [chomp_header, Text.words_append_blank hmark (by decide) (by decide),
    Text.words_append_blank (hrange _ _ _ (by decide)) (by simp) (by decide),
    Text.words_append_blank (hrange _ _ _ (by decide)) (by simp) (by decide)]

theorem ofHeader?_header (hw : h.Readable) : Hunk.ofHeader? (Text.chomp h.header) = some h.opened := by
  obtain ⟨rest, hrest⟩ := words_header h
  rw [Hunk.ofHeader?, hrest]
  simp [readRange?_printRange hw.oldStart hw.oldCount, readRange?_printRange hw.newStart hw.newCount,
    opened]

theorem left?_opened (hw : h.WellFormed) :
    h.opened.left? = some h.opened := by
  have := hw.changes
  rw [Hunk.left?, if_neg]
  simp only [Hunk.isDone, opened, Bool.and_eq_true, beq_iff_eq]
  omega

theorem reads_header (hw : h.Readable) {p : Place} (hp : p.IsBetween) :
    Reads p [Text.chomp h.header] [] ⟨p.current, h.opened.left?⟩ := by
  intro files
  show (p.reader files).step (Text.chomp h.header) = _
  have hafter : Text.after? "+++ ".toList (Text.chomp h.header) = none := by
    rw [chomp_header]; rfl
  have hstart : Text.startsWith ['@', '@'] (Text.chomp h.header) = true := by
    rw [chomp_header]; rfl
  have hopen : (some h.opened).filter (fun k => !k.isDone) = h.opened.left? := by
    rw [Option.filter, Hunk.left?]
    cases h.opened.isDone <;> rfl
  rw [step_of_isBetween hp, DiffReader.headerLine, hafter]
  simp only [hstart, ofHeader?_header hw, hopen]
  rfl

end PrintedHunk

/-! ### Reading bodies -/

section

variable (file : String) (n k o : Nat)

theorem reads_added (text : List Char) :
    Reads ⟨some file, some ⟨n, k + 1, o⟩⟩ [Text.chomp (BodyLine.added text).print] [.add file n]
      ⟨some file, Hunk.left? ⟨DiffReader.nextLine n, k, o⟩⟩ := by
  rw [BodyLine.print, Text.chomp_cons (by decide)]
  exact fun _ => rfl

theorem reads_context (text : List Char) :
    Reads ⟨some file, some ⟨n, k + 1, o + 1⟩⟩ [Text.chomp (BodyLine.context text).print] []
      ⟨some file, Hunk.left? ⟨DiffReader.nextLine n, k, o⟩⟩ := by
  rw [BodyLine.print, Text.chomp_cons (by decide)]
  exact fun _ => rfl

theorem reads_removed (text : List Char) :
    Reads ⟨some file, some ⟨n, k, o + 1⟩⟩ [Text.chomp (BodyLine.removed text).print] []
      ⟨some file, Hunk.left? ⟨n, k, o⟩⟩ := by
  rw [BodyLine.print, Text.chomp_cons (by decide)]
  exact fun _ => rfl

theorem reads_noNewline (h : Hunk) :
    Reads ⟨some file, h.left?⟩ [Text.chomp BodyLine.noNewline.print] [] ⟨some file, h.left?⟩ := by
  rw [BodyLine.print, Text.chomp_cons (by decide)]
  by_cases hd : h.isDone = true
  · rw [Hunk.left?, if_pos hd]
    exact reads_of_not_mark (.inl rfl) (by simp) (by simp)
  · rw [Hunk.left?, if_neg hd]
    intro files
    rw [List.foldl_cons, List.foldl_nil]
    simp only [DiffReader.step, Place.reader, DiffReader.hunkLine, if_neg hd]
    rfl

end

theorem newCount_cons (l : BodyLine) (body : List BodyLine) :
    newCount (l :: body) = newCount body + if l.isNew then 1 else 0 :=
  List.countP_cons

theorem oldCount_cons (l : BodyLine) (body : List BodyLine) :
    oldCount (l :: body) = oldCount body + if l.isOld then 1 else 0 :=
  List.countP_cons

/-- Counting on from the last 64-bit number gives 0, but then no new line is left. -/
theorem addedFrom_nextLine {n : Nat} {body : List BodyLine}
    (h : n + (newCount body + 1) ≤ Text.maxCount + 1) :
    addedFrom (DiffReader.nextLine n) body = addedFrom (n + 1) body ∧
      (DiffReader.nextLine n + newCount body ≤ Text.maxCount + 1 ∨ newCount body = 0) := by
  rcases Nat.lt_or_ge n Text.maxCount with hn | hn
  · have heq : DiffReader.nextLine n = n + 1 := Nat.mod_eq_of_lt (by omega)
    rw [heq]
    exact ⟨rfl, .inl (by omega)⟩
  · have h0 : newCount body = 0 := by omega
    rw [addedFrom_eq_nil_of_newCount h0, addedFrom_eq_nil_of_newCount h0]
    exact ⟨rfl, .inr h0⟩

/-- Inside a file, the body of a hunk adds its added lines, and the reader has left the hunk
afterwards. -/
theorem reads_body (file : String) (body : List BodyLine) (n : Nat)
    (hn : n + newCount body ≤ Text.maxCount + 1 ∨ newCount body = 0) :
    Reads ⟨some file, Hunk.left? ⟨n, newCount body, oldCount body⟩⟩
      (body.map fun l => Text.chomp l.print) ((addedFrom n body).map (Edit.add file))
      ⟨some file, none⟩ := by
  induction body generalizing n with
  | nil => exact Reads.nil
  | cons l body ih =>
    rw [newCount_cons] at hn
    rw [newCount_cons, oldCount_cons]
    cases l with
    | added text =>
      obtain ⟨heq, hnext⟩ := addedFrom_nextLine (hn.resolve_right (by simp [BodyLine.isNew]))
      have hrest := ih _ hnext
      rw [heq] at hrest
      exact (reads_added file n _ _ text).cons hrest
    | context text =>
      obtain ⟨heq, hnext⟩ := addedFrom_nextLine (hn.resolve_right (by simp [BodyLine.isNew]))
      have hrest := ih _ hnext
      rw [heq] at hrest
      exact (reads_context file n _ _ text).cons hrest
    | removed text =>
      have hopen : Hunk.left? ⟨n, newCount body, oldCount body + 1⟩ =
          some ⟨n, newCount body, oldCount body + 1⟩ := by
        simp [Hunk.left?, Hunk.isDone]
      have := (reads_removed file n _ _ text).cons (ih n hn)
      rw [← hopen] at this
      exact this
    | noNewline =>
      exact (reads_noNewline file _).cons (ih n hn)

/-- Outside of hunks, the lines of a body are passed over unless one of them reads as the name of a
file. -/
theorem reads_body_of_isBetween {p : Place} (hp : p.IsBetween) {body : List BodyLine}
    (h : ∀ l ∈ body, ¬ nameMark <+: Text.chomp l.print) :
    Reads p (body.map fun l => Text.chomp l.print) [] p := by
  induction body with
  | nil => exact Reads.nil
  | cons l body ih =>
    have hhunk : ¬ hunkMark <+: Text.chomp l.print := by
      cases l <;> rw [BodyLine.print, Text.chomp_cons (by decide)] <;> simp
    exact (reads_of_not_mark hp (h l (by simp)) hhunk).cons (ih fun l' hl' => h l' (by simp [hl']))

theorem PrintedHunk.reads_lines {h : PrintedHunk} (hw : h.Readable) (file : String) :
    Reads ⟨some file, none⟩ (h.lines.map Text.chomp) (h.addedLines.map (Edit.add file))
      ⟨some file, none⟩ := by
  have hbody := reads_body file h.body h.newStart (.inl hw.last)
  have := (reads_header hw (p := ⟨some file, none⟩) (.inl rfl)).cons hbody
  rw [PrintedHunk.lines, List.map_cons, List.map_map]
  exact this

end Guideline.Change
