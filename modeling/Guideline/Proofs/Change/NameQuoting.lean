import Guideline.Change.Scope
import Guideline.Proofs.Change.Composition
import Guideline.Proofs.Change.SingleFile
import Guideline.Proofs.Path.Components
import Guideline.Proofs.Text.Trim
import Guideline.Text.Utf8

/-!
# File names as they are printed

A version-control tool prints the name of a file as it is, with a tab behind a name that holds a space,
or between quotes with escapes if some byte of it is not printable (`Prints`). The reader knows nothing
of quotes: a quoted name is taken for the name of another file, and spaces at the end of a plain name
are lost (`fileName_of_prints`). All other names are read back, and only those: characters that
components keep tell the two paths apart.
-/

namespace Guideline.Change

/-- The character is printed as it is: printable, and neither a quote nor a backslash. -/
def isPlainChar (c : Char) : Bool :=
  0x20 ≤ c.toNat && c.toNat < 0x7F && c ≠ '"' && c ≠ '\\'

/-- The bytes that are escaped by a letter or by themselves. -/
def byteLetters : List (UInt8 × Char) :=
  [(0x07, 'a'), (0x08, 'b'), (0x09, 't'), (0x0A, 'n'), (0x0B, 'v'), (0x0C, 'f'), (0x0D, 'r'),
    (0x22, '"'), (0x5C, '\\')]

/-- Three octal digits. -/
def octal (b : UInt8) : List Char :=
  [b.toNat / 64, b.toNat / 8 % 8, b.toNat % 8].map Nat.digitChar

def escapeByte (b : UInt8) : List Char :=
  '\\' :: match Collection.find? b byteLetters with
    | some letter => [letter]
    | none => octal b

def escapeChar (c : Char) : List Char :=
  if isPlainChar c then [c] else (String.utf8EncodeChar c).flatMap escapeByte

/-- The name of the new side between quotes. -/
def quotedName (path : List Char) : List Char :=
  '"' :: 'b' :: '/' :: (path.flatMap escapeChar ++ ['"'])

/-- The path needs no quotes. -/
def IsPlain (path : List Char) : Prop :=
  ∀ c ∈ path, isPlainChar c = true

instance (path : List Char) : Decidable (IsPlain path) :=
  decidable_of_iff (path.all isPlainChar = true) List.all_eq_true

/-- The name of the new side of a file, as its header line prints it. -/
inductive Prints (path : List Char) : List Char → Prop
  | plain : IsPlain path → ' ' ∉ path → Prints path ('b' :: '/' :: path)
  | plainTab : IsPlain path → ' ' ∈ path → Prints path ('b' :: '/' :: (path ++ ['\t']))
  | quoted : ¬ IsPlain path → Prints path (quotedName path)
  | quotedTab : ¬ IsPlain path → ' ' ∈ path → Prints path (quotedName path ++ ['\t'])

/-- The path that the reader takes from the printed name of a file. -/
def pathRead (path : List Char) : List Char :=
  if IsPlain path then Text.trimEnd path else quotedName path

/-! ### Reading printed names -/

theorem fileName_plain (path : List Char) :
    fileName ('b' :: '/' :: path) = String.ofList (Text.trimEnd path) := by
  have htrim : Text.trimEnd ('b' :: '/' :: path) = 'b' :: '/' :: Text.trimEnd path :=
    Text.trimEnd_append_of_not_isBlank (a := ['b']) (by decide) path
  rw [fileName, htrim]
  rfl

theorem trimEnd_quotedName (path : List Char) : Text.trimEnd (quotedName path) = quotedName path :=
  Text.trimEnd_append_of_not_isBlank (a := '"' :: 'b' :: '/' :: path.flatMap escapeChar) (by decide) []

theorem fileName_quoted (path : List Char) : fileName (quotedName path) = String.ofList (quotedName path) := by
  rw [fileName, trimEnd_quotedName]
  rfl

theorem fileName_tab (name : List Char) : fileName (name ++ ['\t']) = fileName name := by
  rw [fileName, fileName, Text.trimEnd_append_of_isBlank (by decide)]

theorem fileName_of_prints {path name : List Char} (h : Prints path name) :
    fileName name = String.ofList (pathRead path) := by
  cases h with
  | plain hp => rw [fileName_plain, pathRead, if_pos hp]
  | plainTab hp =>
    rw [fileName_plain, pathRead, if_pos hp, Text.trimEnd_append_of_isBlank (by decide)]
  | quoted hp => rw [fileName_quoted, pathRead, if_neg hp]
  | quotedTab hp => rw [fileName_tab, fileName_quoted, pathRead, if_neg hp]

/-! ### The paths that are read back -/

theorem not_isBlank_of_isPlainChar {c : Char} (h : isPlainChar c = true) (hc : c ≠ ' ') :
    Text.isBlank c = false := by
  have hne : c.toNat ≠ 0x20 := fun heq => hc (Char.toNat_inj.1 heq)
  simp only [isPlainChar, Bool.and_eq_true, decide_eq_true_eq] at h
  simp only [Text.isBlank]
  grind

theorem trimEnd_of_isPlain {path : List Char} (h : IsPlain path) (hlast : path.getLast? ≠ some ' ') :
    Text.trimEnd path = path := by
  cases path using List.reverseRecOn with
  | nil => rfl
  | append_singleton path c =>
    have hc : c ≠ ' ' := by simpa using hlast
    exact Text.trimEnd_append_of_not_isBlank (not_isBlank_of_isPlainChar (h c (by simp)) hc) []

/-- A space at the end is lost. -/
theorem count_space_trimEnd {path : List Char} (h : path.getLast? = some ' ') :
    (Text.trimEnd path).count ' ' < path.count ' ' := by
  obtain ⟨front, rfl⟩ := List.getLast?_eq_some_iff.1 h
  have hle := (Text.trimEnd_sublist front).count_le ' '
  rw [Text.trimEnd_append_of_isBlank (by decide), List.count_append, List.count_singleton_self]
  omega

/-- The quotes around a name come on top of those in it. -/
theorem count_quote_quotedName (path : List Char) :
    path.count '"' < (quotedName path).count '"' := by
  have hchar : ∀ c : Char, [c].count '"' ≤ (escapeChar c).count '"' := by
    intro c
    by_cases hc : c = '"'
    · subst hc
      decide
    · simp [hc]
  have hpath : path.count '"' ≤ (path.flatMap escapeChar).count '"' := by
    induction path with
    | nil => simp
    | cons c path ih =>
      have := hchar c
      rw [← List.singleton_append, List.count_append, List.flatMap_append, List.count_append,
        List.flatMap_singleton]
      omega
  simp only [quotedName, List.count_cons, List.count_append]
  simp
  omega

theorem components_ne_of_count {p q : List Char} {x : Char} (hslash : x ≠ '/') (hpoint : x ≠ '.')
    (h : p.count x ≠ q.count x) :
    Path.normalComponents (String.ofList p) ≠ Path.normalComponents (String.ofList q) := by
  intro heq
  have hp := Path.count_normalText hslash hpoint (String.ofList p)
  have hq := Path.count_normalText hslash hpoint (String.ofList q)
  rw [heq, hq, String.toList_ofList, String.toList_ofList] at hp
  exact h hp.symm

/-- The reader takes a printed name for the file that it names, if and only if the path needs no quotes
and does not end in a space. -/
theorem components_pathRead_iff {path : List Char} :
    Path.normalComponents (String.ofList (pathRead path)) = Path.normalComponents (String.ofList path) ↔
      IsPlain path ∧ path.getLast? ≠ some ' ' := by
  constructor
  · intro heq
    by_contra hno
    rw [pathRead] at heq
    split_ifs at heq with hp
    · have hlast : path.getLast? = some ' ' := by_contra fun hlast => hno ⟨hp, hlast⟩
      exact components_ne_of_count (by decide) (by decide) (count_space_trimEnd hlast).ne heq
    · exact components_ne_of_count (by decide) (by decide) (count_quote_quotedName path).ne' heq
  · rintro ⟨hp, hlast⟩
    rw [pathRead, if_pos hp, trimEnd_of_isPlain hp hlast]

/-! ### Sections with printed names -/

namespace PrintedDiff

theorem readLines_append (d d' : PrintedDiff) : readLines (d ++ d') = readLines d ++ readLines d' := by
  simp [readLines, lines]

/-- Wherever a section stands, its file is listed: the first line of the section leaves any hunk. -/
theorem exists_reads_list {d : PrintedDiff} (hd : ∀ s ∈ d, s.WellFormed) {s : FileSection} (hs : s ∈ d)
    {c : TextChange} (hc : s.change = some c) {name : List Char} (hn : c.newName = some name) :
    ∃ es q, Reads {} d.readLines es q ∧ Edit.list (fileName name) ∈ es := by
  have hcw := (hd s hs).change c hc
  obtain ⟨before, after, rfl⟩ := List.append_of_mem hs
  obtain ⟨es, p, hbefore⟩ := exists_reads {} (readLines before)
  have hname := TextChange.reads_name hn (hcw.name name hn).2 p.isBetween_leaveHunk
  obtain ⟨es', q, hrest⟩ := exists_reads ⟨some (fileName name), p.leaveHunk.hunk⟩
    ((c.hunks.flatMap fun h => h.lines.map Text.chomp) ++ readLines after)
  have hsection : Reads p (readLines (s :: after)) ([.list (fileName name)] ++ es') q := by
    refine reads_cons (hd s hs) ?_
    rw [hc, Option.map_some, Option.getD_some, TextChange.lines_map_chomp]
    exact hname.cons hrest
  rw [readLines_append]
  exact ⟨_, q, hbefore.append hsection, by simp⟩

/-- A diff of one section gives its file alone, with the numbers of the added lines. -/
theorem parseDiff_singleton {s : FileSection} (hs : s.WellFormed) {c : TextChange}
    (hc : s.change = some c) {name : List Char} (hn : c.newName = some name) :
    parseDiff (text [s]) =
      [(fileName name, Collection.unionNat [] (c.hunks.flatMap PrintedHunk.addedLines))] := by
  have hw : WellFormed [s] := ⟨by simpa using hs, by cases hf : s.file? <;> simp [files, hf]⟩
  have hreads : Reads {} (readLines [s])
      (.list (fileName name) :: TextChange.addEdits (fileName name) c.hunks)
      ⟨some (fileName name), none⟩ := by
    refine reads_cons hs ?_
    rw [hc, Option.map_some, Option.getD_some, readLines, lines, List.flatMap_nil, List.map_nil,
      List.append_nil]
    exact TextChange.reads_kept (hs.change c hc) hn rfl
  rw [Reads.parseDiff_eq (lines_text hw ▸ hreads), FileChange.addEdits_eq_map]
  exact Edit.applyAll_add_singleton _ [] _

end PrintedDiff

theorem ChangeScope.contains_ofLines_singleton (file : String) (ns : List Nat) (path : String) (n : Nat) :
    (ChangeScope.ofLines [(file, ns)]).contains path n = true ↔
      Path.normalComponents file = Path.normalComponents path ∧ n ∈ ns := by
  simp only [ofLines, contains, selection?, Collection.ofEntries, Collection.put, Collection.alter,
    List.map_cons, List.map_nil, List.foldl_cons, List.foldl_nil, Collection.find?]
  by_cases h : Path.normalComponents file = Path.normalComponents path <;>
    simp [h, LineSelection.contains]

/-- A section whose header prints the path of its file lists the file under the path as it is read. This is
the path itself, so that the added lines of the file are in scope, if and only if the path needs no quotes
and does not end in a space. -/
theorem parseDiff_of_prints {s : FileSection} (hs : s.WellFormed) {c : TextChange} (hc : s.change = some c)
    {path name : List Char} (hn : c.newName = some name) (hname : Prints path name) :
    let listed := String.ofList (pathRead path)
    let file := String.ofList path
    (∃ ns, parseDiff (PrintedDiff.text [s]) = [(listed, ns)] ∧ ns.Pairwise (· < ·) ∧
      ∀ n, n ∈ ns ↔ ∃ h ∈ c.hunks, h.Adds n) ∧
    (∀ d : PrintedDiff, d.WellFormed → s ∈ d → (parseDiff d.text).Lists listed) ∧
    (Path.cmp listed file = .eq ↔ IsPlain path ∧ path.getLast? ≠ some ' ') ∧
    (listed = file ↔ IsPlain path ∧ path.getLast? ≠ some ' ') ∧
    ∀ n, (ChangeScope.ofLines (parseDiff (PrintedDiff.text [s]))).contains file n = true ↔
      (∃ h ∈ c.hunks, h.Adds n) ∧ IsPlain path ∧ path.getLast? ≠ some ' ' := by
  intro listed file
  have hread : fileName name = listed := fileName_of_prints hname
  have hparse := PrintedDiff.parseDiff_singleton hs hc hn
  have hsame : Path.normalComponents listed = Path.normalComponents file ↔ _ := components_pathRead_iff
  have hmem : ∀ n, n ∈ Collection.unionNat [] (c.hunks.flatMap PrintedHunk.addedLines) ↔
      ∃ h ∈ c.hunks, h.Adds n := by
    simp [Collection.mem_unionNat, PrintedHunk.mem_addedLines_iff]
  have hback : IsPlain path ∧ path.getLast? ≠ some ' ' → listed = file := by
    rintro ⟨hp, hlast⟩
    simp only [listed, file, pathRead, if_pos hp, trimEnd_of_isPlain hp hlast]
  rw [hread] at hparse
  refine ⟨⟨_, hparse, Collection.pairwise_unionNat List.Pairwise.nil _, hmem⟩, ?_, ?_, ?_, ?_⟩
  · intro d hd hsd
    obtain ⟨es, q, hreads, hlist⟩ := PrintedDiff.exists_reads_list hd.sections hsd hc hn
    rw [Reads.parseDiff_eq (PrintedDiff.lines_text hd ▸ hreads)]
    refine Edit.lists_applyAll.2 (.inr ⟨_, hlist, ?_⟩)
    rw [Edit.file, hread]
    exact Std.ReflCmp.compare_self
  · rw [Path.cmp_eq_eq_iff]
    exact ⟨fun h => hsame.1 (by rw [Path.normalComponents, h]; rfl), fun h => by rw [hback h]⟩
  · exact ⟨fun h => hsame.1 (by rw [h]), hback⟩
  · intro n
    rw [hparse, ChangeScope.contains_ofLines_singleton, hsame, hmem, and_comm]

/-- A new file of one line. -/
def oneLineSection (name : List Char) : FileSection where
  command := "--git".toList
  preamble := []
  change := some ⟨some name, ⟨0, 1, [], [.added ['x']]⟩, []⟩

/-- A name with an accent is listed between its quotes, and its line is out of scope; a name with a space
inside is read back. -/
theorem parseDiff_oneLineSection :
    let accented := parseDiff (PrintedDiff.text [oneLineSection (quotedName ['é'])])
    let spaced := parseDiff (PrintedDiff.text [oneLineSection "b/a b\t".toList])
    (∃ ns, accented = [("\"b/\\303\\251\"", ns)] ∧ 1 ∈ ns) ∧
    (ChangeScope.ofLines accented).contains "é" 1 = false ∧
    (ChangeScope.ofLines spaced).contains "a b" 1 = true := by
  intro accented spaced
  have haccented := parseDiff_of_prints (s := oneLineSection (quotedName ['é'])) (by decide) rfl rfl
    (.quoted (by decide : ¬ IsPlain ['é']))
  have hspaced := parseDiff_of_prints (s := oneLineSection "b/a b\t".toList) (by decide) rfl rfl
    (.plainTab (by decide : IsPlain "a b".toList) (by decide))
  obtain ⟨⟨ns, hns, -, hadded⟩, -, -, -, hscope⟩ := haccented
  refine ⟨⟨ns, hns, (hadded 1).2 ⟨_, List.mem_cons_self .., [], ['x'], [], rfl, rfl⟩⟩, ?_, ?_⟩
  · have hout := mt (hscope 1).1 (fun h => absurd h.2.1 (by decide))
    exact Bool.eq_false_iff.2 hout
  · exact (hspaced.2.2.2.2 1).2
      ⟨⟨_, List.mem_cons_self .., [], ['x'], [], rfl, rfl⟩, by decide, by decide⟩

end Guideline.Change
