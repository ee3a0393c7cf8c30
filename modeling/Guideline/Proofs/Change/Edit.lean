import Guideline.Change.Diff
import Guideline.Proofs.Collection.Sorted
import Guideline.Proofs.Path.Order
import Mathlib.Data.List.Induction

/-!
# What a diff reader does to its files

Where a reader stands (`Place`) decides alone what the next lines do: they list files and add lines
to them (`Edit`), whatever has been read before. `Reads p ls es q` says that lines `ls` take the
reader from `p` to `q` with the edits `es`. Edits that follow others give the union of what both
give alone (`applyAll_eq_union`).
-/

namespace Guideline.Change

/-- What one line of a diff does to the files read so far. -/
inductive Edit where
  /-- The file is listed. -/
  | list (file : String)
  /-- The file gains a line. -/
  | add (file : String) (line : Nat)
deriving DecidableEq, Repr

namespace Edit

def apply (files : ChangedLines) : Edit → ChangedLines
  | list file => Collection.alter Path.cmp file (·.getD []) files
  | add file line =>
    Collection.alter Path.cmp file (fun ls => Collection.insertNat line (ls.getD [])) files

def applyAll (files : ChangedLines) (es : List Edit) : ChangedLines :=
  es.foldl apply files

theorem applyAll_append (files : ChangedLines) (es es' : List Edit) :
    applyAll files (es ++ es') = applyAll (applyAll files es) es' :=
  List.foldl_append

end Edit

/-- The lines of both, file by file. -/
def ChangedLines.union (files files' : ChangedLines) : ChangedLines :=
  Collection.unionSets Path.cmp files files'

/-- The line `n` of `file` is among the changed lines. -/
def ChangedLines.Has (files : ChangedLines) (file : String) (n : Nat) : Prop :=
  Collection.HasNumber Path.cmp files file n

/-- The file is listed, with or without changed lines. -/
def ChangedLines.Lists (files : ChangedLines) (file : String) : Prop :=
  Collection.HasKey Path.cmp files file

namespace Edit

theorem isSorted_applyAll {files : ChangedLines} (h : Collection.IsSorted Path.cmp files)
    (es : List Edit) : Collection.IsSorted Path.cmp (applyAll files es) := by
  induction es generalizing files with
  | nil => exact h
  | cons e es ih =>
    refine ih ?_
    cases e <;> exact h.alter

theorem union_apply {files files' : ChangedLines} (h : Collection.IsSorted Path.cmp files') (e : Edit) :
    files.union (e.apply files') = e.apply (files.union files') := by
  cases e with
  | list file => exact Collection.unionSets_alter (g := id) (fun _ _ => rfl) h
  | add file line =>
    exact Collection.unionSets_alter (Collection.unionNat_insertNat_right line) h

theorem applyAll_eq_union (files : ChangedLines) (es : List Edit) :
    applyAll files es = files.union (applyAll [] es) := by
  induction es using List.reverseRecOn with
  | nil => rfl
  | append_singleton es e ih =>
    have hsorted : Collection.IsSorted Path.cmp (applyAll [] es) := isSorted_applyAll List.Pairwise.nil es
    rw [applyAll_append, applyAll_append, ih]
    exact (union_apply hsorted e).symm

theorem has_applyAll {files : ChangedLines} {es : List Edit} {file : String} {n : Nat} :
    (applyAll files es).Has file n ↔
      files.Has file n ∨ ∃ file', add file' n ∈ es ∧ Path.cmp file' file = .eq := by
  induction es generalizing files with
  | nil => simp [applyAll]
  | cons e es ih =>
    rw [show applyAll files (e :: es) = applyAll (e.apply files) es from rfl, ih]
    cases e with
    | list file₀ =>
      have h : (apply files (list file₀)).Has file n ↔ files.Has file n ∨ _ :=
        Collection.hasNumber_alter (g := id) (q := fun _ => False) (by simp)
      simp [h]
    | add file₀ m =>
      have h : (apply files (add file₀ m)).Has file n ↔ files.Has file n ∨ _ :=
        Collection.hasNumber_alter (q := (· = m)) fun s k => by
          rw [Collection.mem_insertNat]; exact or_comm
      rw [h, or_assoc]
      simp only [List.mem_cons, add.injEq]
      refine or_congr_right ⟨?_, ?_⟩
      · rintro (⟨hc, rfl⟩ | ⟨file', hmem, hc⟩)
        · exact ⟨file₀, .inl ⟨rfl, rfl⟩, hc⟩
        · exact ⟨file', .inr hmem, hc⟩
      · rintro ⟨file', ⟨rfl, rfl⟩ | hmem, hc⟩
        · exact .inl ⟨hc, rfl⟩
        · exact .inr ⟨file', hmem, hc⟩

/-- The file of an edit. -/
def file : Edit → String
  | list file | add file _ => file

theorem lists_applyAll {files : ChangedLines} {es : List Edit} {name : String} :
    (applyAll files es).Lists name ↔ files.Lists name ∨ ∃ e ∈ es, Path.cmp e.file name = .eq := by
  induction es generalizing files with
  | nil => simp [applyAll]
  | cons e es ih =>
    have happly : (e.apply files).Lists name ↔ files.Lists name ∨ Path.cmp e.file name = .eq := by
      cases e <;> exact Collection.hasKey_alter
    rw [show applyAll files (e :: es) = applyAll (e.apply files) es from rfl, ih, happly, or_assoc,
      List.exists_mem_cons_iff]

end Edit

/-! ### Reading lines -/

/-- Where a reader stands: the file that hunks belong to, and the hunk it is in. -/
structure Place where
  current : Option String := none
  hunk : Option Hunk := none

/-- The reader that stands at `p` and has read `files`. -/
def Place.reader (p : Place) (files : ChangedLines) : DiffReader :=
  ⟨files, p.current, p.hunk⟩

/-- The lines `ls` take a reader from `p` to `q`, with the edits `es`. -/
def Reads (p : Place) (ls : List (List Char)) (es : List Edit) (q : Place) : Prop :=
  ∀ files, ls.foldl DiffReader.step (p.reader files) = q.reader (Edit.applyAll files es)

namespace Reads

variable {p q r : Place} {ls ls' : List (List Char)} {es es' : List Edit}

theorem nil : Reads p [] [] p := fun _ => rfl

theorem append (h : Reads p ls es q) (h' : Reads q ls' es' r) : Reads p (ls ++ ls') (es ++ es') r := by
  intro files
  rw [List.foldl_append, h files, h', Edit.applyAll_append]

theorem cons {line : List Char} (h : Reads p [line] es q) (h' : Reads q ls es' r) :
    Reads p (line :: ls) (es ++ es') r :=
  h.append h'

theorem parseDiff_eq {diff : List Char} (h : Reads {} (Text.lines diff) es q) :
    parseDiff diff = Edit.applyAll [] es := by
  rw [parseDiff]
  exact congrArg DiffReader.files (h [])

end Reads

/-! ### Reading one line -/

/-- The reader is not inside the hunk of a file, so the next line is read as a header. -/
def Place.IsBetween (p : Place) : Prop :=
  p.hunk = none ∨ p.current = none

theorem step_of_isBetween {p : Place} (h : p.IsBetween) (files : ChangedLines) (line : List Char) :
    (p.reader files).step line = (p.reader files).headerLine line := by
  obtain ⟨current, hunk⟩ := p
  rcases h with rfl | rfl
  · rfl
  · cases hunk <;> rfl

theorem exists_reads_header (p : Place) (line : List Char) : ∃ (es : List Edit) (q : Place),
    ∀ files, (p.reader files).headerLine line = q.reader (Edit.applyAll files es) := by
  unfold DiffReader.headerLine
  split
  · rename_i path _
    unfold DiffReader.fileHeader
    by_cases h : Text.trimEnd path = "/dev/null".toList
    · exact ⟨[], ⟨none, p.hunk⟩, fun _ => if_pos h⟩
    · exact ⟨[.list _], ⟨some _, p.hunk⟩, fun _ => if_neg h⟩
  · by_cases h : Text.startsWith ['@', '@'] line = true
    · exact ⟨[], ⟨p.current, _⟩, fun _ => if_pos h⟩
    · exact ⟨[], p, fun _ => if_neg h⟩

theorem exists_reads_hunk (p : Place) (file : String) (h : Hunk) (line : List Char) :
    ∃ (es : List Edit) (q : Place),
      ∀ files, (p.reader files).hunkLine file h line = q.reader (Edit.applyAll files es) := by
  unfold DiffReader.hunkLine
  split
  · exact ⟨[.add file h.newLine], ⟨p.current, _⟩, fun _ => rfl⟩
  all_goals exact ⟨[], ⟨p.current, _⟩, fun _ => rfl⟩

/-- Any lines take a reader somewhere, with edits that do not depend on what it has read. -/
theorem exists_reads (p : Place) (ls : List (List Char)) : ∃ es q, Reads p ls es q := by
  induction ls generalizing p with
  | nil => exact ⟨[], p, Reads.nil⟩
  | cons line ls ih =>
    have hline : ∃ es q, Reads p [line] es q := by
      obtain ⟨current, hunk⟩ := p
      cases hunk with
      | none => exact exists_reads_header _ line
      | some h =>
        cases current with
        | none => exact exists_reads_header _ line
        | some file => exact exists_reads_hunk _ file h line
    obtain ⟨es, q, h⟩ := hline
    obtain ⟨es', q', h'⟩ := ih q
    exact ⟨es ++ es', q', h.cons h'⟩

end Guideline.Change
