import Guideline.Proofs.Change.Printed

/-!
# Printed file sections

A diff is a list of sections, one for each file: a `diff` line, more header lines, and, if the text
of the file changes, its name and its hunks. A reader that is not inside the hunk of a file passes
over the header lines. From there on three things can happen:

* a deleted file adds nothing, but leaves its last hunk open (`reads_deleted`);
* a file that is kept adds its lines, and no hunk is open afterwards (`reads_kept`);
* a file that is kept, read while a hunk is open, loses the header of its first hunk to it, and with
  the header the lines of that hunk (`reads_kept_of_open`).
-/

namespace Guideline.Change

/-- The change of a file's text. -/
structure TextChange where
  /-- What follows `+++`, the name of the file; `none` for a deleted file. -/
  newName : Option (List Char)
  first : PrintedHunk
  rest : List PrintedHunk
deriving DecidableEq, Repr

/-- The file that a header names, without blanks at its end and the mark of the new side. -/
def fileName (name : List Char) : String :=
  String.ofList ((Text.after? ['b', '/'] (Text.trimEnd name)).getD (Text.trimEnd name))

namespace TextChange

/-- The file that has the changed text, unless it is deleted. -/
def file? (c : TextChange) : Option String :=
  c.newName.map fileName

def hunks (c : TextChange) : List PrintedHunk :=
  c.first :: c.rest

def nameLine (c : TextChange) : List Char :=
  nameMark ++ c.newName.getD "/dev/null".toList

def lines (c : TextChange) : List (List Char) :=
  c.nameLine :: c.hunks.flatMap PrintedHunk.lines

/-- A text change as it is printed: hunks one after the other, and no new lines in a deleted file. -/
@[mk_iff]
structure WellFormed (c : TextChange) : Prop where
  hunks : ∀ h ∈ c.hunks, h.WellFormed
  ordered : c.hunks.Pairwise fun h h' => h.newStart + newCount h.body ≤ h'.newStart
  name : ∀ name ∈ c.newName, '\n' ∉ name ∧ Text.trimEnd name ≠ "/dev/null".toList
  deleted : c.newName = none → ∀ h ∈ c.hunks, newCount h.body = 0

instance (c : TextChange) : Decidable c.WellFormed :=
  decidable_of_iff _ c.wellFormed_iff.symm

end TextChange

/-- The section of a diff on one file. -/
structure FileSection where
  /-- What follows `diff` on the first line. -/
  command : List Char
  /-- The other lines before the changed text: modes, hashes, renames, and the old name. -/
  preamble : List (List Char)
  /-- Moving a file, or changing a file that is not text, changes no text. -/
  change : Option TextChange
deriving DecidableEq, Repr

namespace FileSection

def headerLines (s : FileSection) : List (List Char) :=
  ("diff ".toList ++ s.command) :: s.preamble

def lines (s : FileSection) : List (List Char) :=
  s.headerLines ++ (s.change.map TextChange.lines).getD []

def file? (s : FileSection) : Option String :=
  s.change.bind TextChange.file?

@[mk_iff]
structure WellFormed (s : FileSection) : Prop where
  command : '\n' ∉ s.command
  preamble : ∀ l ∈ s.preamble, '\n' ∉ l ∧ ¬ nameMark <+: l ∧ ¬ hunkMark <+: l
  change : ∀ c ∈ s.change, c.WellFormed

instance (s : FileSection) : Decidable s.WellFormed :=
  decidable_of_iff _ s.wellFormed_iff.symm

end FileSection

abbrev PrintedDiff := List FileSection

namespace PrintedDiff

def lines (d : PrintedDiff) : List (List Char) :=
  d.flatMap FileSection.lines

def text (d : PrintedDiff) : List Char :=
  Text.unlines d.lines

/-- The files whose text the diff gives, other than deleted ones. -/
def files (d : PrintedDiff) : List String :=
  d.filterMap FileSection.file?

/-- A complete diff: well-formed sections, no two of them on one file. -/
@[mk_iff]
structure WellFormed (d : PrintedDiff) : Prop where
  sections : ∀ s ∈ d, s.WellFormed
  once : d.files.Pairwise fun f f' => Path.cmp f f' ≠ .eq

instance (d : PrintedDiff) : Decidable d.WellFormed :=
  decidable_of_iff _ (wellFormed_iff d).symm

/-- The diff whose lines are read, as they are read. -/
def readLines (d : PrintedDiff) : List (List Char) :=
  d.lines.map Text.chomp

end PrintedDiff

/-! ### The lines of a diff -/

theorem not_newline_mem_printRange {start count : Nat} : '\n' ∉ printRange start count := fun h =>
  absurd (not_isBlank_of_mem_printRange h) (by decide)

theorem PrintedHunk.not_newline_mem_lines {h : PrintedHunk} (hw : h.Readable) :
    ∀ l ∈ h.lines, '\n' ∉ l := by
  intro l hl
  rcases List.mem_cons.1 hl with rfl | hl
  · simp [header, not_newline_mem_printRange, hw.heading]
  · obtain ⟨b, hb, rfl⟩ := List.mem_map.1 hl
    exact hw.body b hb

theorem TextChange.not_newline_mem_lines {c : TextChange} (hw : c.WellFormed) :
    ∀ l ∈ c.lines, '\n' ∉ l := by
  intro l hl
  rcases List.mem_cons.1 hl with rfl | hl
  · rw [nameLine]
    cases hn : c.newName with
    | none => decide
    | some name => simpa using (hw.name name hn).1
  · obtain ⟨h, hh, hl⟩ := List.mem_flatMap.1 hl
    exact PrintedHunk.not_newline_mem_lines (hw.hunks h hh).toReadable l hl

theorem FileSection.not_newline_mem_lines {s : FileSection} (hw : s.WellFormed) :
    ∀ l ∈ s.lines, '\n' ∉ l := by
  intro l hl
  rcases List.mem_append.1 hl with hl | hl
  · rcases List.mem_cons.1 hl with rfl | hl
    · simpa using hw.command
    · exact (hw.preamble l hl).1
  · cases hc : s.change with
    | none => simp [hc] at hl
    | some c =>
      rw [hc] at hl
      exact TextChange.not_newline_mem_lines (hw.change c hc) l hl

theorem PrintedDiff.lines_text_append {d : PrintedDiff} (hw : d.WellFormed) (t : List Char) :
    Text.lines (d.text ++ t) = d.readLines ++ Text.lines t := by
  refine Text.lines_unlines_append (fun l hl => ?_) t
  obtain ⟨s, hs, hl⟩ := List.mem_flatMap.1 hl
  exact FileSection.not_newline_mem_lines (hw.sections s hs) l hl

theorem PrintedDiff.lines_text {d : PrintedDiff} (hw : d.WellFormed) :
    Text.lines d.text = d.readLines := by
  have := lines_text_append hw []
  simpa [Text.lines] using this

/-! ### Reading header lines -/

/-- Where a line that belongs to no hunk takes the reader. -/
def Place.leaveHunk : Place → Place
  | ⟨some file, some _⟩ => ⟨some file, none⟩
  | p => p

theorem Place.isBetween_leaveHunk (p : Place) : p.leaveHunk.IsBetween := by
  obtain ⟨_ | _, _ | _⟩ := p <;> simp [leaveHunk, IsBetween]

theorem Place.leaveHunk_of_isBetween {p : Place} (h : p.IsBetween) : p.leaveHunk = p := by
  obtain ⟨_ | _, _ | _⟩ := p <;> simp_all [leaveHunk, IsBetween]

namespace FileSection

variable {s : FileSection}

theorem reads_headerLines (hw : s.WellFormed) (p : Place) :
    Reads p (s.headerLines.map Text.chomp) [] p.leaveHunk := by
  have hdiff : Reads p [Text.chomp ("diff ".toList ++ s.command)] [] p.leaveHunk := by
    rw [Text.chomp_append (by decide)]
    obtain ⟨_ | file, _ | h⟩ := p
    case some.some => exact fun _ => rfl
    all_goals exact reads_of_not_mark (by simp [Place.IsBetween]) (by simp) (by simp)
  have hpreamble : Reads p.leaveHunk (s.preamble.map Text.chomp) [] p.leaveHunk := by
    have h := hw.preamble
    generalize s.preamble = ls at h
    induction ls with
    | nil => exact Reads.nil
    | cons l ls ih =>
      obtain ⟨-, hname, hhunk⟩ := h l (by simp)
      have hl := Text.chomp_isPrefix l
      exact (reads_of_not_mark p.isBetween_leaveHunk (fun h => hname (h.trans hl))
        fun h => hhunk (h.trans hl)).cons (ih fun l' hl' => h l' (by simp [hl']))
  exact hdiff.cons hpreamble

end FileSection

theorem reads_nameMark {name : List Char} (hname : Text.trimEnd name ≠ "/dev/null".toList) {p : Place}
    (hp : p.IsBetween) :
    Reads p [Text.chomp (nameMark ++ name)] [.list (fileName name)] ⟨some (fileName name), p.hunk⟩ := by
  intro files
  have hafter : Text.after? "+++ ".toList (Text.chomp (nameMark ++ name)) = some (Text.chomp name) := by
    rw [Text.chomp_append (by decide)]; exact Text.after?_eq_some_iff.2 rfl
  show (p.reader files).step (Text.chomp (nameMark ++ name)) = _
  rw [step_of_isBetween hp, DiffReader.headerLine, hafter]
  simp only [DiffReader.fileHeader, Text.trimEnd_chomp, if_neg hname]
  rfl

namespace TextChange

variable {c : TextChange} {p : Place}

theorem chomp_nameLine (c : TextChange) :
    Text.chomp c.nameLine = nameMark ++ Text.chomp (c.newName.getD "/dev/null".toList) :=
  Text.chomp_append (by decide) _

theorem reads_name {name : List Char} (hn : c.newName = some name)
    (hname : Text.trimEnd name ≠ "/dev/null".toList) (hp : p.IsBetween) :
    Reads p [Text.chomp c.nameLine] [.list (fileName name)] ⟨some (fileName name), p.hunk⟩ := by
  rw [nameLine, hn]
  exact reads_nameMark hname hp

theorem reads_name_deleted (hn : c.newName = none) (hp : p.IsBetween) :
    Reads p [Text.chomp c.nameLine] [] ⟨none, p.hunk⟩ := by
  intro files
  have hafter : Text.after? "+++ ".toList (Text.chomp c.nameLine) = some "/dev/null".toList := by
    rw [chomp_nameLine, hn]; exact Text.after?_eq_some_iff.2 rfl
  show (p.reader files).step (Text.chomp c.nameLine) = _
  rw [step_of_isBetween hp, DiffReader.headerLine, hafter]
  rfl

/-! ### Reading text changes -/

theorem lines_map_chomp (c : TextChange) :
    c.lines.map Text.chomp =
      Text.chomp c.nameLine :: c.hunks.flatMap fun h => h.lines.map Text.chomp := by
  rw [lines, List.map_cons, List.map_flatMap]

/-- The edits of hunks of `file`. -/
def addEdits (file : String) (hs : List PrintedHunk) : List Edit :=
  hs.flatMap fun h => h.addedLines.map (Edit.add file)

theorem reads_hunks {hs : List PrintedHunk} (hw : ∀ h ∈ hs, h.Readable) (file : String) :
    Reads ⟨some file, none⟩ (hs.flatMap fun h => h.lines.map Text.chomp) (addEdits file hs)
      ⟨some file, none⟩ := by
  induction hs with
  | nil => exact Reads.nil
  | cons h hs ih =>
    exact (h.reads_lines (hw h (by simp)) file).append (ih fun h' hh' => hw h' (by simp [hh']))

theorem reads_kept (hw : c.WellFormed) {name : List Char} (hn : c.newName = some name)
    (hp : p.hunk = none) :
    Reads p (c.lines.map Text.chomp)
      (.list (fileName name) :: addEdits (fileName name) c.hunks) ⟨some (fileName name), none⟩ := by
  have hname := reads_name hn (hw.name name hn).2 (.inl hp)
  rw [hp] at hname
  rw [lines_map_chomp]
  exact hname.cons (reads_hunks (fun h hh => (hw.hunks h hh).toReadable) _)

/-- The hunk that is open takes the header of the first hunk for its own end; the lines of the first
hunk are then passed over as header lines. -/
theorem reads_kept_of_open (hw : c.WellFormed) {name : List Char} (hn : c.newName = some name)
    (hfirst : ∀ l ∈ c.first.body, ¬ nameMark <+: Text.chomp l.print) (h : Hunk) :
    Reads ⟨none, some h⟩ (c.lines.map Text.chomp)
      (.list (fileName name) :: addEdits (fileName name) c.rest) ⟨some (fileName name), none⟩ := by
  have hname := reads_name hn (hw.name name hn).2 (.inr rfl : (⟨none, some h⟩ : Place).IsBetween)
  have hheader : Reads ⟨some (fileName name), some h⟩ [Text.chomp c.first.header] []
      ⟨some (fileName name), none⟩ := by
    rw [PrintedHunk.chomp_header]
    exact fun _ => rfl
  have hbody := reads_body_of_isBetween (.inl rfl : (⟨some (fileName name), none⟩ : Place).IsBetween)
    hfirst
  have hrest := reads_hunks (fun h hh => (hw.hunks h (List.mem_cons_of_mem _ hh)).toReadable) (fileName name)
  rw [lines_map_chomp, hunks, List.flatMap_cons, PrintedHunk.lines, List.map_cons, List.map_map]
  exact hname.cons (hheader.cons (hbody.append hrest))

theorem reads_hunk_deleted {h : PrintedHunk} (hw : h.WellFormed) (hnew : newCount h.body = 0)
    (hp : p.current = none) :
    Reads p (h.lines.map Text.chomp) [] ⟨none, some h.opened⟩ := by
  have hheader := PrintedHunk.reads_header hw.toReadable (.inr hp)
  rw [PrintedHunk.left?_opened hw, hp] at hheader
  have hmark : ∀ l ∈ h.body, ¬ nameMark <+: Text.chomp l.print := by
    intro l hl
    have hl := List.countP_eq_zero.1 hnew l hl
    cases l <;> simp_all [BodyLine.isNew, BodyLine.print, Text.chomp_cons]
  rw [PrintedHunk.lines, List.map_cons, List.map_map]
  exact hheader.cons (reads_body_of_isBetween (.inr rfl) hmark)

theorem reads_hunks_deleted {hs : List PrintedHunk} (hw : ∀ h ∈ hs, h.WellFormed)
    (hnew : ∀ h ∈ hs, newCount h.body = 0) (k : Hunk) :
    ∃ k', Reads ⟨none, some k⟩ (hs.flatMap fun h => h.lines.map Text.chomp) [] ⟨none, some k'⟩ := by
  induction hs generalizing k with
  | nil => exact ⟨k, Reads.nil⟩
  | cons h hs ih =>
    obtain ⟨k', hk'⟩ := ih (fun h' hh' => hw h' (by simp [hh']))
      (fun h' hh' => hnew h' (by simp [hh'])) h.opened
    exact ⟨k', (reads_hunk_deleted (hw h (by simp)) (hnew h (by simp)) rfl).append hk'⟩

/-- A deleted file leaves a hunk open, the same one wherever the reader came from. -/
theorem reads_deleted (hw : c.WellFormed) (hn : c.newName = none) :
    ∃ k, ∀ p : Place, p.IsBetween → Reads p (c.lines.map Text.chomp) [] ⟨none, some k⟩ := by
  have hnew := hw.deleted hn
  have hfirst : c.first ∈ c.hunks := List.mem_cons_self ..
  obtain ⟨k, hk⟩ := reads_hunks_deleted (fun h hh => hw.hunks h (List.mem_cons_of_mem _ hh))
    (fun h hh => hnew h (List.mem_cons_of_mem _ hh)) c.first.opened
  refine ⟨k, fun p hp => ?_⟩
  have hhunk := reads_hunk_deleted (p := ⟨none, p.hunk⟩) (hw.hunks _ hfirst) (hnew _ hfirst) rfl
  rw [lines_map_chomp, hunks, List.flatMap_cons]
  exact (reads_name_deleted hn hp).cons (hhunk.append hk)

end TextChange

end Guideline.Change
