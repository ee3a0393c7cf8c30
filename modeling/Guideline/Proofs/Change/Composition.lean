import Guideline.Proofs.Change.Section

/-!
# Diffs one after the other

Reading a diff after another one gives the union of what both give alone, with one exception: a
deleted file leaves its last hunk open, and if the next file is kept, the reader takes the header of
its first hunk for the end of that open hunk, and the lines which that hunk adds are lost.
-/

namespace Guideline.Change

namespace PrintedDiff

/-- The text changes of a diff, in order. -/
def changes (d : PrintedDiff) : List TextChange :=
  d.filterMap FileSection.change

/-- The last text that the diff changes is that of a deleted file. -/
def EndsInDeletion (d : PrintedDiff) : Prop :=
  ∃ c ∈ d.changes.getLast?, c.newName = none

/-- The first file whose text the diff changes is kept, and its first hunk adds lines. -/
def StartsWithAddition (d : PrintedDiff) : Prop :=
  ∃ c ∈ d.changes.head?, c.newName ≠ none ∧ c.first.addedLines ≠ []

/-- After the diff, a hunk is open that belongs to no file. -/
def LeavesHunkOpen (d : PrintedDiff) : Prop :=
  let r := (Text.lines d.text).foldl DiffReader.step {}
  r.current = none ∧ r.hunk ≠ none

/-- No line of a hunk reads as the name of a file. -/
def HeaderFree (d : PrintedDiff) : Prop :=
  ∀ s ∈ d, ∀ c ∈ s.change, ∀ h ∈ c.hunks, ∀ l ∈ h.body, ¬ nameMark <+: l.print

/-- No file is named by both diffs. -/
def DisjointFiles (d d' : PrintedDiff) : Prop :=
  ∀ f ∈ d.files, ∀ f' ∈ d'.files, Path.cmp f f' ≠ .eq

instance (d : PrintedDiff) : Decidable d.EndsInDeletion :=
  inferInstanceAs (Decidable (∃ c ∈ d.changes.getLast?, _))

instance (d : PrintedDiff) : Decidable d.StartsWithAddition :=
  inferInstanceAs (Decidable (∃ c ∈ d.changes.head?, _))

instance (d : PrintedDiff) : Decidable d.HeaderFree :=
  inferInstanceAs (Decidable (∀ s ∈ d, ∀ c ∈ s.change, ∀ h ∈ c.hunks, ∀ l ∈ h.body, _))

instance (d d' : PrintedDiff) : Decidable (d.DisjointFiles d') :=
  inferInstanceAs (Decidable (∀ f ∈ d.files, ∀ f' ∈ d'.files, _))

theorem changes_cons_none {s : FileSection} (h : s.change = none) (d : PrintedDiff) :
    changes (s :: d) = changes d :=
  List.filterMap_cons_none h

theorem changes_cons_some {s : FileSection} {c : TextChange} (h : s.change = some c) (d : PrintedDiff) :
    changes (s :: d) = c :: changes d :=
  List.filterMap_cons_some h

theorem readLines_cons (s : FileSection) (d : PrintedDiff) :
    readLines (s :: d) = s.headerLines.map Text.chomp ++
      (((s.change.map TextChange.lines).getD []).map Text.chomp ++ readLines d) := by
  simp [readLines, lines, FileSection.lines]

theorem reads_cons {s : FileSection} (hs : s.WellFormed) {d : PrintedDiff} {p q : Place}
    {es : List Edit}
    (h : Reads p.leaveHunk (((s.change.map TextChange.lines).getD []).map Text.chomp ++ readLines d)
      es q) : Reads p (readLines (s :: d)) es q := by
  rw [readLines_cons]
  exact (FileSection.reads_headerLines hs p).append h

/-- A kept file whose first hunk adds nothing is read the same, whether or not a hunk is open. -/
theorem reads_kept_of_isBetween {c : TextChange} (hc : c.WellFormed) {name : List Char}
    (hn : c.newName = some name) {p : Place} (hp : p.IsBetween)
    (h : p.hunk = none ∨ c.first.addedLines = []) :
    Reads p (c.lines.map Text.chomp)
      (.list (fileName name) :: TextChange.addEdits (fileName name) c.hunks)
      ⟨some (fileName name), none⟩ := by
  obtain ⟨current, hunk⟩ := p
  cases hunk with
  | none => exact TextChange.reads_kept hc hn rfl
  | some k =>
    obtain rfl : current = none := hp.resolve_left (by simp)
    have hnone : c.first.addedLines = [] := h.resolve_left (by simp)
    have hmark : ∀ l ∈ c.first.body, ¬ nameMark <+: Text.chomp l.print := by
      intro l hl
      have hl := addedFrom_eq_nil_iff.1 hnone l hl
      cases l <;> simp_all [BodyLine.isAdded, BodyLine.print, Text.chomp_cons]
    have := TextChange.reads_kept_of_open hc hn hmark k
    rw [TextChange.hunks, TextChange.addEdits, List.flatMap_cons, hnone]
    exact this

/-- If no hunk is open, or no added line can be lost, a diff is read as it is at the start. -/
theorem exists_reads_eq {d : PrintedDiff} (hd : ∀ s ∈ d, s.WellFormed) {p : Place}
    (h : p.leaveHunk.hunk = none ∨ ¬ d.StartsWithAddition) :
    ∃ es q q', Reads p d.readLines es q ∧ Reads {} d.readLines es q' := by
  induction d generalizing p with
  | nil => exact ⟨[], p, {}, Reads.nil, Reads.nil⟩
  | cons s d ih =>
    have hs := hd s (by simp)
    have hp := p.isBetween_leaveHunk
    have hempty : ({} : Place).IsBetween := .inl rfl
    cases hc : s.change with
    | none =>
      rw [StartsWithAddition, changes_cons_none hc, ← Place.leaveHunk_of_isBetween hp] at h
      obtain ⟨es, q, q', hq, hq'⟩ := ih (fun s' hs' => hd s' (by simp [hs'])) h
      exact ⟨es, q, q', reads_cons hs (by rw [hc]; exact hq), reads_cons hs (by rw [hc]; exact hq')⟩
    | some c =>
      -- after the first text change the reader is at the same place, and reads on from there
      have hcw := hs.change c hc
      have hfirst : ∃ es r, Reads p.leaveHunk (c.lines.map Text.chomp) es r ∧
          Reads {} (c.lines.map Text.chomp) es r := by
        cases hn : c.newName with
        | none =>
          obtain ⟨k, hk⟩ := TextChange.reads_deleted hcw hn
          exact ⟨[], _, hk _ hp, hk {} hempty⟩
        | some name =>
          have h' : p.leaveHunk.hunk = none ∨ c.first.addedLines = [] := by
            refine h.imp_right fun hstart => by_contra fun hadd => hstart ⟨c, ?_, by simp [hn], hadd⟩
            rw [changes_cons_some hc]; rfl
          exact ⟨_, _, reads_kept_of_isBetween hcw hn hp h',
            reads_kept_of_isBetween hcw hn hempty (.inl rfl)⟩
      obtain ⟨es, r, hp', hempty'⟩ := hfirst
      obtain ⟨es', q, hq⟩ := exists_reads r (readLines d)
      refine ⟨es ++ es', q, q, reads_cons hs ?_, reads_cons hs ?_⟩
      · rw [hc]; exact hp'.append hq
      · rw [hc]; exact hempty'.append hq

theorem leavesHunkOpen_iff {d : PrintedDiff} (hd : d.WellFormed) {es : List Edit} {p : Place}
    (h : Reads {} d.readLines es p) : d.LeavesHunkOpen ↔ p.current = none ∧ p.hunk ≠ none := by
  have hr : d.readLines.foldl DiffReader.step {} = p.reader (Edit.applyAll [] es) := h []
  rw [LeavesHunkOpen, lines_text hd, hr]
  rfl

theorem parseDiff_append_of_reads {d d' : PrintedDiff} (hd : d.WellFormed) (hd' : d'.WellFormed)
    {es es' : List Edit} {p q : Place} (h : Reads {} d.readLines es p)
    (h' : Reads p d'.readLines es' q) :
    parseDiff (d.text ++ d'.text) = Edit.applyAll [] (es ++ es') := by
  refine Reads.parseDiff_eq (q := q) ?_
  rw [lines_text_append hd, lines_text hd']
  exact h.append h'

/-- A diff that leaves no hunk open, or one whose next diff has no added line to lose, composes. -/
theorem parseDiff_append_eq_union {d d' : PrintedDiff} (hd : d.WellFormed) (hd' : d'.WellFormed)
    (h : ¬ (d.LeavesHunkOpen ∧ d'.StartsWithAddition)) :
    parseDiff (d.text ++ d'.text) = (parseDiff d.text).union (parseDiff d'.text) := by
  obtain ⟨es, p, hp⟩ := exists_reads {} d.readLines
  have hsplit : p.leaveHunk.hunk = none ∨ ¬ d'.StartsWithAddition := by
    rw [leavesHunkOpen_iff hd hp] at h
    obtain ⟨_ | file, _ | k⟩ := p <;> simp_all [Place.leaveHunk]
  obtain ⟨es', q, q', hq, hq'⟩ := exists_reads_eq hd'.sections hsplit
  rw [parseDiff_append_of_reads hd hd' hp hq, Edit.applyAll_append, Edit.applyAll_eq_union _ es',
    Reads.parseDiff_eq (lines_text hd ▸ hp), Reads.parseDiff_eq (lines_text hd' ▸ hq')]

/-! ### Diffs without lines that read as names -/

/-- The edits of text changes, the first of which is read while a hunk is open or not. -/
def changeEdits : (isOpen : Bool) → List TextChange → List Edit
  | _, [] => []
  | isOpen, c :: cs =>
    match c.newName with
    | none => changeEdits true cs
    | some name =>
      .list (fileName name) ::
        TextChange.addEdits (fileName name) (if isOpen then c.rest else c.hunks) ++ changeEdits false cs

/-- A hunk is open after text changes that were read while a hunk was open or not. -/
def leftOpen (isOpen : Bool) (cs : List TextChange) : Bool :=
  (cs.getLast?.map (·.newName.isNone)).getD isOpen

theorem leftOpen_cons (isOpen : Bool) (c : TextChange) (cs : List TextChange) :
    leftOpen isOpen (c :: cs) = leftOpen c.newName.isNone cs := by
  rw [leftOpen, leftOpen, List.getLast?_cons]
  cases cs.getLast? <;> rfl

theorem endsInDeletion_iff {d : PrintedDiff} : d.EndsInDeletion ↔ leftOpen false d.changes = true := by
  rw [EndsInDeletion, leftOpen]
  cases d.changes.getLast? <;> simp

theorem HeaderFree.not_nameMark {d : PrintedDiff} (h : d.HeaderFree) {s : FileSection} (hs : s ∈ d)
    {c : TextChange} (hc : s.change = some c) :
    ∀ l ∈ c.first.body, ¬ nameMark <+: Text.chomp l.print := fun l hl hmark =>
  h s hs c hc c.first (List.mem_cons_self ..) l hl (hmark.trans (Text.chomp_isPrefix _))

theorem reads_change {c : TextChange} (hc : c.WellFormed)
    (hmark : ∀ l ∈ c.first.body, ¬ nameMark <+: Text.chomp l.print) {p : Place} (hp : p.IsBetween) :
    ∃ q : Place, q.IsBetween ∧ q.hunk.isSome = c.newName.isNone ∧
      Reads p (c.lines.map Text.chomp) (changeEdits p.hunk.isSome [c]) q := by
  cases hn : c.newName with
  | none =>
    obtain ⟨k, hk⟩ := TextChange.reads_deleted hc hn
    refine ⟨⟨none, some k⟩, .inr rfl, rfl, ?_⟩
    simp only [changeEdits, hn]
    exact hk p hp
  | some name =>
    refine ⟨⟨some (fileName name), none⟩, .inl rfl, rfl, ?_⟩
    simp only [changeEdits, hn, List.append_nil]
    obtain ⟨current, _ | k⟩ := p
    · exact TextChange.reads_kept hc hn rfl
    · obtain rfl : current = none := hp.resolve_left (by simp)
      exact TextChange.reads_kept_of_open hc hn hmark k

theorem changeEdits_cons (isOpen : Bool) (c : TextChange) (cs : List TextChange) :
    changeEdits isOpen (c :: cs) = changeEdits isOpen [c] ++ changeEdits c.newName.isNone cs := by
  cases hn : c.newName <;> simp [changeEdits, hn]

theorem reads_headerFree {d : PrintedDiff} (hd : ∀ s ∈ d, s.WellFormed) (hfree : d.HeaderFree)
    {p : Place} (hp : p.IsBetween) :
    ∃ q : Place, q.IsBetween ∧ q.hunk.isSome = leftOpen p.hunk.isSome d.changes ∧
      Reads p d.readLines (changeEdits p.hunk.isSome d.changes) q := by
  induction d generalizing p with
  | nil => exact ⟨p, hp, rfl, Reads.nil⟩
  | cons s d ih =>
    have hs := hd s (by simp)
    have hd' : ∀ s' ∈ d, s'.WellFormed := fun s' hs' => hd s' (by simp [hs'])
    have hfree' : HeaderFree d := fun s' hs' => hfree s' (by simp [hs'])
    cases hc : s.change with
    | none =>
      obtain ⟨q, hq, hopen, hreads⟩ := ih hd' hfree' hp
      rw [changes_cons_none hc]
      refine ⟨q, hq, hopen, reads_cons hs ?_⟩
      rw [hc, Place.leaveHunk_of_isBetween hp]
      exact hreads
    | some c =>
      obtain ⟨r, hr, hropen, hc'⟩ := reads_change (hs.change c hc) (hfree.not_nameMark (by simp) hc) hp
      obtain ⟨q, hq, hopen, hreads⟩ := ih hd' hfree' hr
      rw [hropen] at hopen hreads
      rw [changes_cons_some hc, leftOpen_cons, changeEdits_cons]
      refine ⟨q, hq, hopen, reads_cons hs ?_⟩
      rw [hc, Place.leaveHunk_of_isBetween hp]
      exact hc'.append hreads

theorem files_eq (d : PrintedDiff) : d.files = d.changes.filterMap TextChange.file? := by
  rw [files, changes, List.filterMap_filterMap]
  rfl

theorem line_of_add_mem_addEdits {file f : String} {n : Nat} {hs : List PrintedHunk}
    (h : Edit.add f n ∈ TextChange.addEdits file hs) : f = file ∧ ∃ k ∈ hs, n ∈ k.addedLines := by
  obtain ⟨k, hk, h⟩ := List.mem_flatMap.1 h
  obtain ⟨m, hm, heq⟩ := List.mem_map.1 h
  obtain ⟨rfl, rfl⟩ := Edit.add.inj heq
  exact ⟨rfl, k, hk, hm⟩

theorem file_of_add_mem_changeEdits {isOpen : Bool} {cs : List TextChange} {f : String} {n : Nat}
    (h : Edit.add f n ∈ changeEdits isOpen cs) : f ∈ cs.filterMap TextChange.file? := by
  induction cs generalizing isOpen with
  | nil => simp [changeEdits] at h
  | cons c cs ih =>
    rw [changeEdits_cons] at h
    rcases List.mem_append.1 h with h | h
    · cases hn : c.newName with
      | none => simp [changeEdits, hn] at h
      | some name =>
        simp only [changeEdits, hn, List.append_nil, List.mem_cons, reduceCtorEq, false_or] at h
        rw [(line_of_add_mem_addEdits h).1]
        simp [TextChange.file?, hn]
    · exact List.mem_filterMap.2 <| by
        obtain ⟨c', hc', hf⟩ := List.mem_filterMap.1 (ih h)
        exact ⟨c', List.mem_cons_of_mem _ hc', hf⟩

/-- The lines of the first hunk are added when no hunk is open ... -/
theorem add_mem_changeEdits_false {c : TextChange} {name : List Char} (hn : c.newName = some name)
    {n : Nat} (h : n ∈ c.first.addedLines) (cs : List TextChange) :
    Edit.add (fileName name) n ∈ changeEdits false (c :: cs) := by
  simp only [changeEdits, hn]
  refine List.mem_append_left _ (List.mem_cons_of_mem _ (List.mem_flatMap.2 ⟨c.first, ?_, ?_⟩))
  · exact List.mem_cons_self ..
  · exact List.mem_map_of_mem h

/-- ... and not when one is: later hunks have later lines, and later changes are of other files. -/
theorem add_not_mem_changeEdits_true {c : TextChange} (hc : c.WellFormed) {name : List Char}
    (hn : c.newName = some name) {n : Nat} (h : n ∈ c.first.addedLines) {cs : List TextChange}
    (honce : ((c :: cs).filterMap TextChange.file?).Pairwise fun f f' => Path.cmp f f' ≠ .eq)
    {f : String} (hf : Path.cmp f (fileName name) = .eq) :
    Edit.add f n ∉ changeEdits true (c :: cs) := by
  intro hmem
  have hfile : c.file? = some (fileName name) := by rw [TextChange.file?, hn]; rfl
  rw [List.filterMap_cons_some hfile, List.pairwise_cons] at honce
  simp only [changeEdits, hn] at hmem
  rcases List.mem_append.1 hmem with hmem | hmem
  · obtain ⟨-, k, hk, hnk⟩ := line_of_add_mem_addEdits ((List.mem_cons.1 hmem).resolve_left (by simp))
    have horder : c.first.newStart + newCount c.first.body ≤ k.newStart :=
      (List.pairwise_cons.1 hc.ordered).1 k hk
    have hlt := (bounds_of_mem_addedFrom h).2
    have hle := (bounds_of_mem_addedFrom hnk).1
    omega
  · exact honce.1 f (file_of_add_mem_changeEdits hmem) (Std.OrientedCmp.eq_symm hf)

theorem leavesHunkOpen_iff_endsInDeletion {d : PrintedDiff} (hd : d.WellFormed)
    (hfree : d.HeaderFree) : d.LeavesHunkOpen ↔ d.EndsInDeletion := by
  obtain ⟨q, hq, hopen, hreads⟩ := reads_headerFree hd.sections hfree (.inl rfl : ({} : Place).IsBetween)
  rw [leavesHunkOpen_iff hd hreads, endsInDeletion_iff]
  show _ ↔ leftOpen (({} : Place).hunk.isSome) d.changes = true
  rw [← hopen]
  obtain ⟨_ | file, _ | k⟩ := q <;> simp_all [Place.IsBetween]

theorem parseDiff_append_ne_union {d d' : PrintedDiff} (hd : d.WellFormed) (hd' : d'.WellFormed)
    (hdisj : d.DisjointFiles d') (hfree : d.HeaderFree) (hfree' : d'.HeaderFree)
    (hends : d.EndsInDeletion) (hstarts : d'.StartsWithAddition) :
    parseDiff (d.text ++ d'.text) ≠ (parseDiff d.text).union (parseDiff d'.text) := by
  obtain ⟨c, hc, hname, hadd⟩ := hstarts
  obtain ⟨cs, hcs⟩ : ∃ cs, d'.changes = c :: cs := List.head?_eq_some_iff.1 hc
  obtain ⟨name, hn⟩ := Option.ne_none_iff_exists'.1 hname
  obtain ⟨n, hnmem⟩ := List.exists_mem_of_ne_nil _ hadd
  have hcw : c.WellFormed := by
    obtain ⟨s, hs, hsc⟩ := List.mem_filterMap.1 (hcs ▸ List.mem_cons_self .. : c ∈ d'.changes)
    exact (hd'.sections s hs).change c hsc
  have hempty : ({} : Place).IsBetween := .inl rfl
  -- the line is in the second diff read alone ...
  obtain ⟨q', -, -, hreads'⟩ := reads_headerFree hd'.sections hfree' hempty
  have hhas : ((parseDiff d.text).union (parseDiff d'.text)).Has (fileName name) n := by
    refine Collection.hasNumber_unionSets.2 (.inr ?_)
    rw [Reads.parseDiff_eq (lines_text hd' ▸ hreads'), hcs]
    exact Edit.has_applyAll.2 (.inr ⟨_, add_mem_changeEdits_false hn hnmem cs, Std.ReflCmp.compare_self⟩)
  -- ... but not where it is read after the first
  obtain ⟨p, hp, hopen, hreads⟩ := reads_headerFree hd.sections hfree hempty
  have hopen' : p.hunk.isSome = true := hopen.trans (endsInDeletion_iff.1 hends)
  obtain ⟨q, -, -, hafter⟩ := reads_headerFree hd'.sections hfree' hp
  rw [hopen', hcs] at hafter
  intro heq
  rw [← heq, parseDiff_append_of_reads hd hd' hreads hafter] at hhas
  obtain ⟨f, hf, hcmp⟩ := (Edit.has_applyAll.1 hhas).resolve_left (by simp [ChangedLines.Has, Collection.HasNumber])
  rcases List.mem_append.1 hf with hf | hf
  · have hmem := file_of_add_mem_changeEdits hf
    rw [← files_eq] at hmem
    refine hdisj f hmem (fileName name) ?_ hcmp
    rw [files_eq, hcs]
    simp [TextChange.file?, hn]
  · have honce := hd'.once
    rw [files_eq, hcs] at honce
    exact add_not_mem_changeEdits_true hcw hn hnmem honce hcmp hf

/-- Reading one complete diff after another gives the union of both, unless the first leaves a hunk
of a deleted file open and the first hunk of the second adds lines. Where no added line reads as the
name of a file, these are exactly the pairs of which the first ends in a deleted file. -/
theorem parseDiff_append_eq_union_iff {d d' : PrintedDiff} (hd : d.WellFormed) (hd' : d'.WellFormed)
    (hdisj : d.DisjointFiles d') :
    (¬ (d.LeavesHunkOpen ∧ d'.StartsWithAddition) →
      parseDiff (d.text ++ d'.text) = (parseDiff d.text).union (parseDiff d'.text)) ∧
    (d.HeaderFree → d'.HeaderFree →
      (parseDiff (d.text ++ d'.text) = (parseDiff d.text).union (parseDiff d'.text) ↔
        ¬ (d.EndsInDeletion ∧ d'.StartsWithAddition))) := by
  refine ⟨parseDiff_append_eq_union hd hd', fun hfree hfree' => ⟨fun heq hbad => ?_, fun h => ?_⟩⟩
  · exact parseDiff_append_ne_union hd hd' hdisj hfree hfree' hbad.1 hbad.2 heq
  · refine parseDiff_append_eq_union hd hd' ?_
    rwa [leavesHunkOpen_iff_endsInDeletion hd hfree]

/-- A file of one line that is deleted. -/
def deletion : FileSection where
  command := "--git a/old.cpp b/old.cpp".toList
  preamble := ["deleted file mode 100644".toList, "--- a/old.cpp".toList]
  change := some ⟨none, ⟨1, 0, [], [.removed "int gone;".toList]⟩, []⟩

/-- A file of one line that gains another. -/
def addition : FileSection where
  command := "--git a/b.cpp b/b.cpp".toList
  preamble := ["--- a/b.cpp".toList]
  change := some ⟨some "b/b.cpp".toList,
    ⟨1, 1, [], [.context "int kept;".toList, .added "int added;".toList]⟩, []⟩

/-- The order of the sections decides whether the added line is found. -/
theorem parseDiff_deletion_addition :
    parseDiff (text [deletion] ++ text [addition]) ≠
        (parseDiff (text [deletion])).union (parseDiff (text [addition])) ∧
      parseDiff (text [addition] ++ text [deletion]) =
        (parseDiff (text [addition])).union (parseDiff (text [deletion])) := by
  have hd : WellFormed [deletion] := by decide
  have ha : WellFormed [addition] := by decide
  refine ⟨fun h => ?_, ?_⟩
  · exact ((parseDiff_append_eq_union_iff hd ha (by decide)).2 (by decide) (by decide)).1 h (by decide)
  · exact ((parseDiff_append_eq_union_iff ha hd (by decide)).2 (by decide) (by decide)).2 (by decide)

end PrintedDiff

end Guideline.Change
