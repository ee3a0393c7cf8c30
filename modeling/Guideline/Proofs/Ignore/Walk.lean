import Guideline.Ignore.Walk
import Guideline.Proofs.Path.Place

/-!
# Walks from inside a walk

What a walk comes to is a file or a directory (`FoundBelow`). A walk that starts there finds no file that
the walk from above does not find, and spells each the same (`mem_of_foundBelow`): ignore files above the
start are asked about the same entries, except those on the way to it, which are not ignored. Walks from
two paths of one place find the same files, each spelled from its path on (`walk_of_place_eq`).
-/

namespace Guideline.Ignore

open FileTree

variable {tree : FileTree} {root names rest : List String}

/-- A walk from the directory at `root` comes to the entry at `names`: nothing on the way is ignored. -/
def Reaches (tree : FileTree) (root names : List String) (entry : FileEntry) : Prop :=
  ∀ n < names.length, root.length ≤ n →
    isIgnored tree (names.take (n + 1)) (n + 1 < names.length || entry = .directory) = false

instance (tree : FileTree) (root names : List String) (entry : FileEntry) :
    Decidable (Reaches tree root names entry) :=
  inferInstanceAs (Decidable (∀ n < _, _ → _))

/-- A walk from the directory at `dir` comes to the file or directory at `path`, spelled from `dir` on. -/
def FoundBelow (tree : FileTree) (dir path : String) : Prop :=
  dir ≠ "-" ∧ ∃ names rest entry, tree.place dir = .ok names ∧ tree.find? names = some .directory ∧
    rest ≠ [] ∧ tree.find? (names ++ rest) = some entry ∧ Reaches tree names (names ++ rest) entry ∧
    path = Path.join dir (joined rest)

theorem isReached_iff {bytes : List UInt8} :
    isReached tree root names = true ↔ Reaches tree root names (.file bytes) := by
  simp only [isReached, Reaches, List.all_eq_true, List.mem_range, Bool.or_eq_true, decide_eq_true_eq,
    Bool.not_eq_true', Bool.or_false, reduceCtorEq, decide_false]
  refine forall₂_congr fun n _ => ?_
  rw [← Nat.not_le, ← imp_iff_not_or]

theorem mem_filesBelow_iff : names ∈ filesBelow tree root ↔
    ∃ bytes, (names, .file bytes) ∈ tree.entries ∧ root <+: names ∧ Reaches tree root names (.file bytes) := by
  simp only [filesBelow, List.mem_filterMap]
  constructor
  · rintro ⟨⟨found, bytes | _⟩, hmem, h⟩
    · obtain ⟨hreached, heq⟩ := Option.ite_none_right_eq_some.1 h
      obtain rfl : found = names := Option.some.inj heq
      rw [Bool.and_eq_true, List.isPrefixOf_iff_prefix] at hreached
      exact ⟨bytes, hmem, hreached.1, isReached_iff.1 hreached.2⟩
    · cases h
  · rintro ⟨bytes, hmem, hpre, hreached⟩
    refine ⟨_, hmem, ?_⟩
    simp [List.isPrefixOf_iff_prefix.2 hpre, isReached_iff.2 hreached]

/-! ### What a walk finds -/

/-- A path that is walked leads to a file, or to a directory with no faulty ignore file above it. -/
theorem walk_eq_ok_iff {path : String} (hpath : path ≠ "-") {found : List String} :
    walk tree path = .ok found ↔ ∃ names, tree.place path = .ok names ∧
      ((∃ bytes, tree.find? names = some (.file bytes)) ∧ found = [path] ∨
        tree.find? names = some .directory ∧ faultAbove? tree names = none ∧
          found = (filesBelow tree names).map fun f => Path.join path (joined (f.drop names.length))) := by
  rw [walk, if_neg hpath]
  cases hplace : tree.place path with
  | error e => simp [Except.mapError, bind, Except.bind]
  | ok names =>
    simp only [Except.mapError, bind, Except.bind, Except.ok.injEq, exists_eq_left']
    cases hfind : tree.find? names with
    | none => simp [throw, throwThe, MonadExceptOf.throw]
    | some entry =>
      cases entry with
      | file bytes => simp [pure, Except.pure, eq_comm]
      | directory =>
        cases faultAbove? tree names with
        | none =>
          simp only [pure, Except.pure, Except.ok.injEq, joined]
          simp [eq_comm]
        | some e => simp [throw, throwThe, MonadExceptOf.throw]

theorem walk_of_file {path : String} (hpath : path ≠ "-") (hplace : tree.place path = .ok names)
    {bytes : List UInt8} (hfile : tree.find? names = some (.file bytes)) : walk tree path = .ok [path] :=
  (walk_eq_ok_iff hpath).2 ⟨names, hplace, .inl ⟨⟨bytes, hfile⟩, rfl⟩⟩

theorem walk_of_directory {path : String} (hpath : path ≠ "-") (hplace : tree.place path = .ok names)
    (hdir : tree.find? names = some .directory) {found : List String} (h : walk tree path = .ok found) :
    found = (filesBelow tree names).map fun f => Path.join path (joined (f.drop names.length)) := by
  obtain ⟨names', hplace', ⟨⟨bytes, hfile⟩, -⟩ | ⟨-, -, hfound⟩⟩ := (walk_eq_ok_iff hpath).1 h
  · obtain rfl := Except.ok.inj (hplace.symm.trans hplace')
    rw [hdir] at hfile
    cases hfile
  · obtain rfl := Except.ok.inj (hplace.symm.trans hplace')
    exact hfound

/-- Below a directory that a walk comes to, the walk finds all that a walk from there finds. -/
theorem mem_filesBelow_append {more : List String} (hw : tree.WellFormed)
    (hdir : tree.find? (root ++ rest) = some .directory)
    (hreaches : Reaches tree root (root ++ rest) .directory)
    (h : root ++ rest ++ more ∈ filesBelow tree (root ++ rest)) :
    more ≠ [] ∧ root ++ rest ++ more ∈ filesBelow tree root := by
  obtain ⟨bytes, hmem, -, hreached⟩ := mem_filesBelow_iff.1 h
  have hmore : more ≠ [] := by
    rintro rfl
    rw [List.append_nil] at hmem
    simp [hw.find?_of_mem hmem] at hdir
  refine ⟨hmore, mem_filesBelow_iff.2 ⟨bytes, hmem, ⟨rest ++ more, by simp⟩, fun n hn hroot => ?_⟩⟩
  by_cases hin : n < (root ++ rest).length
  · -- what stands above the start of the inner walk
    have hlast : n + 1 < (root ++ rest ++ more).length := by
      have := List.length_pos_iff.2 hmore
      rw [List.length_append]
      omega
    have hway := hreaches n hin hroot
    rw [List.take_append_of_le_length (by omega), decide_eq_true hlast, Bool.true_or]
    rwa [decide_eq_true rfl, Bool.or_true] at hway
  · exact hreached n hn (by omega)

theorem FoundBelow.ne_minus (hw : tree.WellFormed) {dir path : String} (h : FoundBelow tree dir path) :
    path ≠ "-" := by
  obtain ⟨-, names, rest, entry, hplace, -, hrest, hentry, -, rfl⟩ := h
  obtain ⟨hne, -⟩ := place_eq_ok_iff.1 hplace
  have hnames : ∀ n ∈ rest, IsName n := fun n hn => hw.isName_of_mem hentry (by simp [hn])
  intro heq
  have hslash : '/' ∈ "-".toList := by
    rw [← heq, Path.toList_join hne (head?_joined hnames)]
    simp
  simp at hslash

/-- A walk from where a walk comes to finds no other files, and spells them the same. -/
theorem mem_of_foundBelow (hw : tree.WellFormed) {dir path : String} (h : FoundBelow tree dir path)
    {fs again : List String} (hdir : walk tree dir = .ok fs)
    (hagain : walk tree path = .ok again) : ∀ f ∈ again, f ∈ fs := by
  have hpath := h.ne_minus hw
  obtain ⟨hminus, names, rest, entry, hplace, hfind, hrest, hentry, hreaches, rfl⟩ := h
  obtain ⟨hne, -⟩ := place_eq_ok_iff.1 hplace
  have hbelow := place_join hw hplace hrest hentry
  obtain rfl := walk_of_directory hminus hplace hfind hdir
  cases entry with
  | file bytes =>
    rw [walk_of_file hpath hbelow hentry] at hagain
    obtain rfl := Except.ok.inj hagain
    have hmem := mem_entries_of_find? hentry (by simp [hrest])
    simp only [List.mem_singleton, forall_eq, List.mem_map]
    exact ⟨names ++ rest, mem_filesBelow_iff.2 ⟨bytes, hmem, ⟨rest, rfl⟩, hreaches⟩, by simp⟩
  | directory =>
    obtain rfl := walk_of_directory hpath hbelow hentry hagain
    intro f hf
    obtain ⟨found, hfound, rfl⟩ := List.mem_map.1 hf
    obtain ⟨bytes, hmem, ⟨more, rfl⟩, -⟩ := mem_filesBelow_iff.1 hfound
    obtain ⟨hmore, hmem'⟩ := mem_filesBelow_append hw hentry hreaches hfound
    have hnames : ∀ n ∈ rest ++ more, IsName n := fun n hn =>
      hw.names _ hmem n (by simp only [List.mem_append] at hn ⊢; tauto)
    refine List.mem_map.2 ⟨_, hmem', ?_⟩
    rw [List.append_assoc, List.drop_left, ← List.append_assoc, List.drop_left]
    exact (join_join hne hrest hmore hnames).symm

/-! ### Two paths of one place -/

/-- `f` and `g` lead to one file: they are `p` and `q`, or they are spelled alike from these directories on. -/
structure Respelled (tree : FileTree) (p q f g : String) : Prop where
  isFile : tree.isFile f = true
  place : tree.place f = tree.place g
  spelled : f = p ∧ g = q ∨
    tree.get p = .ok .directory ∧ ∃ rest, f = Path.join p rest ∧ g = Path.join q rest

theorem Respelled.eq {p f g : String} (h : Respelled tree p p f g) : f = g := by
  rcases h.spelled with ⟨rfl, rfl⟩ | ⟨-, rest, rfl, rfl⟩
  · rfl
  · rfl

/-- A walk from another path of the same place finds the same files. -/
theorem walk_of_place_eq (hw : tree.WellFormed) {p q : String} (hp : p ≠ "-") (hq : q ≠ "-")
    (hplace : tree.place p = tree.place q) {again : List String} (h : walk tree p = .ok again) :
    ∃ fs, walk tree q = .ok fs ∧ ∀ f ∈ again, ∃ g ∈ fs, Respelled tree p q f g := by
  obtain ⟨names, hnames, ⟨⟨bytes, hfile⟩, rfl⟩ | ⟨hdir, hfault, rfl⟩⟩ := (walk_eq_ok_iff hp).1 h
  · refine ⟨[q], walk_of_file hq (hplace ▸ hnames) hfile, fun f hf => ⟨q, List.mem_singleton_self q, ?_⟩⟩
    obtain rfl := List.mem_singleton.1 hf
    exact ⟨isFile_iff.2 ⟨names, bytes, hnames, hfile⟩, hplace, .inl ⟨rfl, rfl⟩⟩
  · refine ⟨_, (walk_eq_ok_iff hq).2 ⟨names, hplace ▸ hnames, .inr ⟨hdir, hfault, rfl⟩⟩, fun f hf => ?_⟩
    obtain ⟨found, hfound, rfl⟩ := List.mem_map.1 hf
    refine ⟨_, List.mem_map_of_mem hfound, ?_⟩
    obtain ⟨bytes, hmem, ⟨rest, rfl⟩, -⟩ := mem_filesBelow_iff.1 hfound
    have hfile := hw.find?_of_mem hmem
    have hrest : rest ≠ [] := by
      rintro rfl
      rw [List.append_nil, hdir] at hfile
      cases hfile
    rw [List.drop_left]
    have hbelow := place_join hw hnames hrest hfile
    have hbelow' := place_join hw (hplace ▸ hnames) hrest hfile
    exact ⟨isFile_iff.2 ⟨_, bytes, hbelow, hfile⟩, hbelow.trans hbelow'.symm,
      .inr ⟨get_eq_ok_iff.2 ⟨names, hnames, hdir⟩, _, rfl, rfl⟩⟩

theorem FoundBelow.get (hw : tree.WellFormed) {dir path : String} (h : FoundBelow tree dir path) :
    ∃ entry, tree.get path = .ok entry := by
  obtain ⟨-, names, rest, entry, hplace, -, hrest, hentry, -, rfl⟩ := h
  exact ⟨entry, get_eq_ok_iff.2 ⟨_, place_join hw hplace hrest hentry, hentry⟩⟩

end Guideline.Ignore
