import Guideline.Proofs.Change.Section

/-!
# The change of one file

A section with the name of one file and any hunks, also such as change nothing or stand in any order,
is read exactly: the file is listed alone, with the numbers of the added lines (`parseDiff_text`).
What a line holds does not count, since the lengths in the header of a hunk alone tell where it ends.
-/

namespace Guideline.Change

/-- The change of one file: its path and its hunks. -/
structure FileChange where
  path : List Char
  hunks : List PrintedHunk
deriving DecidableEq, Repr

namespace FileChange

def oldNameLine (c : FileChange) : List Char :=
  ['-', '-', '-', ' '] ++ ('a' :: '/' :: c.path)

def newNameLine (c : FileChange) : List Char :=
  nameMark ++ ('b' :: '/' :: c.path)

def lines (c : FileChange) : List (List Char) :=
  c.oldNameLine :: c.newNameLine :: c.hunks.flatMap PrintedHunk.lines

def text (c : FileChange) : List Char :=
  Text.unlines c.lines

@[mk_iff]
structure WellFormed (c : FileChange) : Prop where
  path : '\n' ∉ c.path
  /-- The path does not end in white space. -/
  trimmed : Text.trimEnd c.path = c.path
  hunks : ∀ h ∈ c.hunks, h.Readable

instance (c : FileChange) : Decidable c.WellFormed :=
  decidable_of_iff _ c.wellFormed_iff.symm

end FileChange

/-! ### Numbers of added lines -/

/-- An added line of the hunk has the number `n` on the new side. -/
def PrintedHunk.Adds (h : PrintedHunk) (n : Nat) : Prop :=
  ∃ before text after,
    h.body = before ++ BodyLine.added text :: after ∧ n = h.newStart + newCount before

theorem mem_addedFrom_iff {body : List BodyLine} {start n : Nat} :
    n ∈ addedFrom start body ↔
      ∃ before text after, body = before ++ BodyLine.added text :: after ∧ n = start + newCount before := by
  induction body generalizing start with
  | nil => simp [addedFrom]
  | cons l body ih =>
    -- an added line is the first one, or it stands behind the first one
    have hsplit : (∃ before text after, l :: body = before ++ BodyLine.added text :: after ∧
          n = start + newCount before) ↔
        (l.isAdded = true ∧ n = start) ∨
          n ∈ addedFrom (start + if l.isNew then 1 else 0) body := by
      rw [ih]
      constructor
      · rintro ⟨_ | ⟨b, before⟩, text, after, heq, rfl⟩
        · obtain ⟨rfl, -⟩ := List.cons.inj heq
          exact .inl ⟨rfl, rfl⟩
        · obtain ⟨rfl, rfl⟩ := List.cons.inj heq
          exact .inr ⟨before, text, after, rfl, by rw [newCount_cons]; omega⟩
      · rintro (⟨hadded, rfl⟩ | ⟨before, text, after, rfl, rfl⟩)
        · cases l <;> simp only [BodyLine.isAdded, Bool.false_eq_true] at hadded
          exact ⟨[], _, body, rfl, rfl⟩
        · exact ⟨l :: before, text, after, rfl, by rw [newCount_cons]; omega⟩
    rw [hsplit]
    cases l <;> simp [addedFrom, BodyLine.isAdded, BodyLine.isNew]

theorem PrintedHunk.mem_addedLines_iff {h : PrintedHunk} {n : Nat} : n ∈ h.addedLines ↔ h.Adds n :=
  mem_addedFrom_iff

/-- Lines added to the only file are added to its numbers. -/
theorem Edit.applyAll_add_singleton (file : String) (s ns : List Nat) :
    applyAll [(file, s)] (ns.map (add file)) =
      [(file, Collection.unionNat s ns)] := by
  induction ns generalizing s with
  | nil => rfl
  | cons n ns ih =>
    have hadd : apply [(file, s)] (add file n) = [(file, Collection.insertNat n s)] := by
      simp [apply, Collection.alter, Std.ReflCmp.compare_self]
    rw [List.map_cons, applyAll, List.foldl_cons, hadd]
    exact ih _

/-! ### Reading the section -/

namespace FileChange

variable {c : FileChange}

theorem not_newline_mem_lines (hw : c.WellFormed) : ∀ l ∈ c.lines, '\n' ∉ l := by
  intro l hl
  rcases List.mem_cons.1 hl with rfl | hl
  · simp [oldNameLine, hw.path]
  rcases List.mem_cons.1 hl with rfl | hl
  · simp [newNameLine, hw.path]
  · obtain ⟨h, hh, hl⟩ := List.mem_flatMap.1 hl
    exact PrintedHunk.not_newline_mem_lines (hw.hunks h hh) l hl

theorem lines_text (hw : c.WellFormed) : Text.lines c.text = c.lines.map Text.chomp := by
  have h : Text.lines (c.text ++ []) = c.lines.map Text.chomp ++ Text.lines [] :=
    Text.lines_unlines_append (not_newline_mem_lines hw) []
  simpa only [Text.lines, List.append_nil] using h

theorem trimEnd_newName (hw : c.WellFormed) :
    Text.trimEnd ('b' :: '/' :: c.path) = 'b' :: '/' :: c.path := by
  have h := Text.trimEnd_append_of_not_isBlank (a := ['b']) (c := '/') (by decide) c.path
  rwa [hw.trimmed] at h

theorem fileName_newName (hw : c.WellFormed) :
    fileName ('b' :: '/' :: c.path) = String.ofList c.path := by
  rw [fileName, trimEnd_newName hw]
  rfl

theorem reads_lines (hw : c.WellFormed) :
    Reads {} (c.lines.map Text.chomp)
      (.list (String.ofList c.path) :: TextChange.addEdits (String.ofList c.path) c.hunks)
      ⟨some (String.ofList c.path), none⟩ := by
  have hold : Reads {} [Text.chomp c.oldNameLine] [] {} := by
    rw [oldNameLine, Text.chomp_append (by decide)]
    exact reads_of_not_mark (.inl rfl) (by simp) (by simp)
  have hnew : Reads {} [Text.chomp c.newNameLine] [.list (String.ofList c.path)]
      ⟨some (String.ofList c.path), none⟩ := by
    rw [← fileName_newName hw]
    refine reads_nameMark ?_ (.inl rfl)
    rw [trimEnd_newName hw]
    simp
  have hhunks := TextChange.reads_hunks hw.hunks (String.ofList c.path)
  rw [lines, List.map_cons, List.map_cons, List.map_flatMap]
  exact hold.cons (hnew.cons hhunks)

theorem addEdits_eq_map (file : String) (hs : List PrintedHunk) :
    TextChange.addEdits file hs = (hs.flatMap PrintedHunk.addedLines).map (Edit.add file) := by
  rw [TextChange.addEdits, List.map_flatMap]

/-- The section of one file gives that file alone, with exactly the numbers that its added lines have
on the new side, in ascending order. -/
theorem parseDiff_text (hw : c.WellFormed) :
    ∃ ns : List Nat, parseDiff c.text = [(String.ofList c.path, ns)] ∧ ns.Pairwise (· < ·) ∧
      ∀ n, n ∈ ns ↔ ∃ h ∈ c.hunks, h.Adds n := by
  refine ⟨Collection.unionNat [] (c.hunks.flatMap PrintedHunk.addedLines), ?_,
    Collection.pairwise_unionNat List.Pairwise.nil _, fun n => ?_⟩
  · rw [Reads.parseDiff_eq (lines_text hw ▸ reads_lines hw), addEdits_eq_map]
    exact Edit.applyAll_add_singleton _ [] _
  · simp only [Collection.mem_unionNat, List.not_mem_nil, false_or, List.mem_flatMap,
      PrintedHunk.mem_addedLines_iff]

/-- Lines that look like headers, a hunk without lines, and notes after lines of both sides. -/
def disguised : FileChange where
  path := "a b".toList
  hunks :=
    [⟨5, 7, [], []⟩,
      ⟨1, 1, " f".toList, [.added "++ b/x".toList, .noNewline, .removed "-- a/x".toList,
        .context "@@ -1 +1 @@".toList, .added "@@".toList, .noNewline]⟩]

theorem parseDiff_disguised : disguised.WellFormed ∧
    ∃ ns : List Nat, parseDiff disguised.text = [("a b", ns)] ∧ ns.Pairwise (· < ·) ∧
      ∀ n, n ∈ ns ↔ ∃ h ∈ disguised.hunks, h.Adds n := by
  have hw : disguised.WellFormed := by decide
  exact ⟨hw, parseDiff_text hw⟩

end FileChange

end Guideline.Change
