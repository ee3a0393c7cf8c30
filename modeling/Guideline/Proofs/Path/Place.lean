import Guideline.Path
import Guideline.Proofs.FileTree
import Guideline.Proofs.Text.Split
import Mathlib.Data.List.Induction
import Mathlib.Data.List.Nodup

/-!
# Where paths lead

In a tree whose entries have names and stand in directories, a path below a directory leads to the place
below it (`place_join`). The path of a file ends in the name of the file, so paths of one file have the
same last component (`fileName?_of_place`).
-/

namespace Guideline

namespace Path

/-- A directory without a separator at its end. -/
def base (dir : String) : List Char :=
  if dir.toList.getLast? = some '/' then dir.toList.dropLast else dir.toList

theorem toList_eq_base (dir : String) : dir.toList = base dir ∨ dir.toList = base dir ++ ['/'] := by
  unfold base
  split_ifs with hlast
  · exact .inr (List.dropLast_append_getLast? _ hlast).symm
  · exact .inl rfl

theorem toList_join {dir name : String} (hdir : dir ≠ "") (hname : name.toList.head? ≠ some '/') :
    (join dir name).toList = base dir ++ '/' :: name.toList := by
  have hempty : dir.isEmpty = false := by simpa using hdir
  unfold join base
  rw [hempty, Bool.or_false, if_neg (by simpa using hname)]
  split_ifs with hlast
  · rw [String.toList_append, ← List.dropLast_append_getLast? _ hlast]
    simp
  · simp

theorem base_join {dir name : String} (hdir : dir ≠ "") (hhead : name.toList.head? ≠ some '/')
    (hname : name ≠ "") (hlast : name.toList.getLast? ≠ some '/') :
    base (join dir name) = base dir ++ '/' :: name.toList := by
  have hne : name.toList ≠ [] := by simpa using hname
  have hend : (base dir ++ '/' :: name.toList).getLast? = name.toList.getLast? := by
    rw [List.getLast?_append_cons, List.getLast?_cons, List.getLast?_eq_getLast_of_ne_nil hne]
    rfl
  rw [base, toList_join hdir hhead, hend, if_neg hlast]

theorem join_ne_empty {dir name : String} (hdir : dir ≠ "") (hhead : name.toList.head? ≠ some '/') :
    join dir name ≠ "" := by
  intro h
  have := toList_join hdir hhead
  rw [h] at this
  simp at this

end Path

namespace FileTree

/-- The name of a file or directory. -/
def IsName (name : String) : Prop :=
  '/' ∉ name.toList ∧ name ≠ "" ∧ name ≠ "." ∧ name ≠ ".."

instance (name : String) : Decidable (IsName name) :=
  inferInstanceAs (Decidable (_ ∧ _))

/-- Every entry has one place, and directories lead to it. -/
@[mk_iff]
structure WellFormed (t : FileTree) : Prop where
  placed : ∀ e ∈ t.entries, e.1 ≠ []
  names : ∀ e ∈ t.entries, ∀ n ∈ e.1, IsName n
  once : (t.entries.map Prod.fst).Nodup
  parents : ∀ e ∈ t.entries, ∀ k < e.1.length, t.find? (e.1.take k) = some .directory

instance (t : FileTree) : Decidable t.WellFormed :=
  decidable_of_iff _ t.wellFormed_iff.symm

variable {t : FileTree} {names rest : List String} {entry : FileEntry}

theorem mem_entries_of_find? (h : t.find? names = some entry) (hne : names ≠ []) :
    (names, entry) ∈ t.entries := by
  rw [find?, if_neg (by simpa using hne), Option.map_eq_some_iff] at h
  obtain ⟨e, he, rfl⟩ := h
  obtain rfl : e.1 = names := by simpa using List.find?_some he
  exact List.mem_of_find?_eq_some he

namespace WellFormed

variable (hw : t.WellFormed)

include hw

theorem find?_of_mem (h : (names, entry) ∈ t.entries) : t.find? names = some entry := by
  have hne : names ≠ [] := hw.placed _ h
  have hinj := List.inj_on_of_nodup_map hw.once
  cases hfind : t.entries.find? fun e => e.1 = names with
  | none => simpa using List.find?_eq_none.1 hfind _ h
  | some e =>
    have hname : e.1 = names := by simpa using List.find?_some hfind
    have he := hinj (List.mem_of_find?_eq_some hfind) h hname
    rw [find?, if_neg (by simpa using hne)]
    simp only [hfind, he, Option.map_some]

theorem find?_take (h : t.find? names = some entry) {k : Nat} (hk : k < names.length) :
    t.find? (names.take k) = some .directory :=
  hw.parents _ (mem_entries_of_find? h (List.ne_nil_of_length_pos (by omega))) k hk

theorem isName_of_mem (h : t.find? names = some entry) {n : String} (hn : n ∈ names) : IsName n :=
  hw.names _ (mem_entries_of_find? h (List.ne_nil_of_mem hn)) n hn

end WellFormed

theorem get_eq_ok_iff {path : String} :
    t.get path = .ok entry ↔ ∃ names, t.place path = .ok names ∧ t.find? names = some entry := by
  rw [get, bind_eq_ok_iff]
  refine exists_congr fun names => and_congr_right fun _ => ?_
  cases t.find? names <;> simp [pure, Except.pure, throw, throwThe, MonadExceptOf.throw]

theorem isFile_iff {path : String} : t.isFile path = true ↔
    ∃ names bytes, t.place path = .ok names ∧ t.find? names = some (.file bytes) := by
  have hget : t.isFile path = true ↔ ∃ bytes, t.get path = .ok (.file bytes) := by
    rw [isFile]
    split <;> simp_all
  rw [hget, exists_comm]
  simp only [get_eq_ok_iff]

/-! ### Following names -/

theorem follow_name {here : List String} (h : t.find? here = some .directory) {n : String}
    (hn : IsName n) : t.follow here n.toList = .ok (here ++ [n]) := by
  obtain ⟨-, hempty, hpoint, hpoints⟩ := hn
  have hne : ∀ cs : List Char, n ≠ String.ofList cs → n.toList ≠ cs := by
    rintro cs hcs rfl
    exact hcs (String.ofList_toList).symm
  rw [follow, h]
  simp [step, hne ['.'] hpoint, hne ['.', '.'] hpoints, hempty]

theorem foldlM_follow_names {here : List String} (hnames : ∀ n ∈ rest, IsName n)
    (hdirs : ∀ k < rest.length, t.find? (here ++ rest.take k) = some .directory) :
    (rest.map String.toList).foldlM t.follow here = .ok (here ++ rest) := by
  induction rest generalizing here with
  | nil => simp [pure, Except.pure]
  | cons n rest ih =>
    have hhere : t.find? here = some .directory := by simpa using hdirs 0 (by simp)
    have hrest : (rest.map String.toList).foldlM t.follow (here ++ [n]) = .ok (here ++ [n] ++ rest) :=
      ih (fun m hm => hnames m (by simp [hm])) fun k hk => by
        simpa using hdirs (k + 1) (by simpa using hk)
    rw [List.map_cons, List.foldlM_cons, follow_name hhere (hnames n (by simp))]
    simpa [bind, Except.bind] using hrest

theorem place_eq_ok_iff {path : String} : t.place path = .ok names ↔
    path ≠ "" ∧ (Text.splitAtChar '/' path.toList).foldlM t.follow (t.start path) = .ok names := by
  rw [place]
  split_ifs with h
  · simp [String.isEmpty_iff.1 h]
  · simp [mt String.isEmpty_iff.2 h]

theorem foldlM_follow_base {dir : String} (h : t.place dir = .ok names) :
    (Text.splitAtChar '/' (Path.base dir)).foldlM t.follow (t.start dir) = .ok names := by
  obtain ⟨-, hfold⟩ := place_eq_ok_iff.1 h
  rcases Path.toList_eq_base dir with heq | heq
  · rwa [heq] at hfold
  · rw [heq, Text.splitAtChar_append_cons, List.foldlM_append] at hfold
    obtain ⟨here, hhere, hnil⟩ := bind_eq_ok_iff.1 hfold
    obtain ⟨next, hnext, hdone⟩ := bind_eq_ok_iff.1 hnil
    obtain rfl := Except.ok.inj hdone
    rwa [follow_nil hnext]

/-! ### Names joined to paths -/

/-- The names one after the other, with separators. -/
def joined (rest : List String) : String :=
  "/".intercalate rest

theorem toList_joined_append {rest more : List String} (hrest : rest ≠ []) (hmore : more ≠ []) :
    (joined (rest ++ more)).toList = (joined rest).toList ++ '/' :: (joined more).toList := by
  simp only [joined, String.toList_intercalate, List.map_append]
  rw [Text.intercalate_append (by simpa using hrest) (by simpa using hmore)]
  simp

theorem splitAtChar_joined (hrest : rest ≠ []) (hnames : ∀ n ∈ rest, IsName n) :
    Text.splitAtChar '/' (joined rest).toList = rest.map String.toList := by
  rw [joined, String.toList_intercalate]
  refine Text.splitAtChar_intercalate (by simpa using hrest) fun piece hpiece => ?_
  obtain ⟨n, hn, rfl⟩ := List.mem_map.1 hpiece
  exact (hnames n hn).1

theorem IsName.toList_ne_nil {n : String} (h : IsName n) : n.toList ≠ [] := by
  simpa using h.2.1

theorem head?_joined (hnames : ∀ n ∈ rest, IsName n) : (joined rest).toList.head? ≠ some '/' := by
  cases rest with
  | nil => simp [joined]
  | cons n rest =>
    have hn := hnames n (by simp)
    have hhead : (joined (n :: rest)).toList.head? = n.toList.head? := by
      cases rest with
      | nil => simp [joined]
      | cons m rest =>
        rw [← List.singleton_append, toList_joined_append (by simp) (by simp)]
        simp [joined, List.head?_append_of_ne_nil _ hn.toList_ne_nil]
    rw [hhead]
    exact fun h => hn.1 (List.mem_of_mem_head? h)

theorem getLast?_joined (hnames : ∀ n ∈ rest, IsName n) :
    (joined rest).toList.getLast? ≠ some '/' := by
  cases rest using List.reverseRecOn with
  | nil => simp [joined]
  | append_singleton rest n =>
    have hn := hnames n (by simp)
    have hlast : (joined (rest ++ [n])).toList.getLast? = n.toList.getLast? := by
      cases rest with
      | nil => simp [joined]
      | cons m rest =>
        rw [toList_joined_append (by simp) (by simp), List.getLast?_append_cons, List.getLast?_cons,
          List.getLast?_eq_getLast_of_ne_nil]
        · simp [joined, List.getLast?_eq_getLast_of_ne_nil hn.toList_ne_nil]
        · simpa [joined] using hn.2.1
    rw [hlast]
    exact fun h => hn.1 (List.mem_of_getLast? h)

theorem joined_ne_empty (hrest : rest ≠ []) (hnames : ∀ n ∈ rest, IsName n) : joined rest ≠ "" := by
  cases rest with
  | nil => exact absurd rfl hrest
  | cons n rest =>
    intro h
    have hsplit := splitAtChar_joined hrest hnames
    rw [h] at hsplit
    have hn := hnames n (by simp)
    simp [Text.splitAtChar] at hsplit
    exact hn.2.1 hsplit.1

theorem start_join {dir name : String} (hdir : dir ≠ "") (hname : name.toList.head? ≠ some '/') :
    t.start (Path.join dir name) = t.start dir := by
  have hhead : (Path.join dir name).toList.head? = dir.toList.head? := by
    have hne : dir.toList ≠ [] := by simpa using hdir
    rw [Path.toList_join hdir hname]
    rcases Path.toList_eq_base dir with heq | heq
    · rw [← heq, List.head?_append_of_ne_nil _ hne]
    · rw [heq]
      cases Path.base dir <;> rfl
  rw [start, start, hhead]

/-- A path below a directory leads to the place below that of the directory. -/
theorem place_join (hw : t.WellFormed) {dir : String} (hdir : t.place dir = .ok names)
    (hrest : rest ≠ []) (h : t.find? (names ++ rest) = some entry) :
    t.place (Path.join dir (joined rest)) = .ok (names ++ rest) := by
  obtain ⟨hne, -⟩ := place_eq_ok_iff.1 hdir
  have hnames : ∀ n ∈ rest, IsName n := fun n hn => hw.isName_of_mem h (by simp [hn])
  have hdirs : ∀ k < rest.length, t.find? (names ++ rest.take k) = some .directory := by
    intro k hk
    have htake := hw.find?_take h (k := names.length + k) (by simp; omega)
    rwa [List.take_length_add_append] at htake
  have hhead := head?_joined hnames
  refine place_eq_ok_iff.2 ⟨Path.join_ne_empty hne hhead, ?_⟩
  rw [start_join hne hhead, Path.toList_join hne hhead, Text.splitAtChar_append_cons, List.foldlM_append,
    splitAtChar_joined hrest hnames]
  exact bind_eq_ok_iff.2 ⟨names, foldlM_follow_base hdir, foldlM_follow_names hnames hdirs⟩

/-- Joining names one after the other is joining them at once. -/
theorem join_join {dir : String} (hdir : dir ≠ "") {more : List String} (hrest : rest ≠ [])
    (hmore : more ≠ []) (hnames : ∀ n ∈ rest ++ more, IsName n) :
    Path.join (Path.join dir (joined rest)) (joined more) = Path.join dir (joined (rest ++ more)) := by
  have hr : ∀ n ∈ rest, IsName n := fun n hn => hnames n (by simp [hn])
  have hm : ∀ n ∈ more, IsName n := fun n hn => hnames n (by simp [hn])
  rw [← String.toList_inj, Path.toList_join (Path.join_ne_empty hdir (head?_joined hr)) (head?_joined hm),
    Path.base_join hdir (head?_joined hr) (joined_ne_empty hrest hr) (getLast?_joined hr),
    Path.toList_join hdir (head?_joined hnames), toList_joined_append hrest hmore]
  simp

/-! ### The last name of a path -/

theorem getLast?_components {path : String} {init : List (List Char)} {last : List Char}
    (hsplit : Text.splitAtChar '/' path.toList = init ++ [last]) (hempty : last ≠ [])
    (hpoint : last ≠ ['.']) (hpoints : last ≠ ['.', '.']) :
    (Path.components path).getLast? = some (.normal (String.ofList last)) := by
  have hname : ∀ isFirst, Path.component? isFirst last = some (.normal (String.ofList last)) := by
    intro isFirst
    simp [Path.component?, hempty, hpoint, hpoints]
  rw [Path.components, hsplit]
  cases init with
  | nil =>
    -- the first piece of an absolute path is empty, so this one is relative
    have hhead : path.toList.head? ≠ some '/' := by
      intro hhead
      obtain ⟨cs, hcs⟩ := List.head?_eq_some_iff.1 hhead
      rw [hcs, Text.splitAtChar_cons_self] at hsplit
      exact hempty (List.cons.inj hsplit).1.symm
    simp [hhead, hname]
  | cons first init => simp [List.filterMap_append, hname]

/-- The path of a file ends in the name of the file. -/
theorem fileName?_of_place (hw : t.WellFormed) {path : String} (h : t.place path = .ok names)
    {bytes : List UInt8} (hfile : t.find? names = some (.file bytes)) :
    Path.fileName? path = names.getLast? := by
  obtain ⟨-, hfold⟩ := place_eq_ok_iff.1 h
  obtain ⟨init, last, hsplit⟩ : ∃ init last, Text.splitAtChar '/' path.toList = init ++ [last] :=
    (List.eq_nil_or_concat' _).resolve_left (Text.splitAtChar_ne_nil _ _)
  rw [hsplit, List.foldlM_append] at hfold
  obtain ⟨here, -, hlast⟩ := bind_eq_ok_iff.1 hfold
  obtain ⟨next, hnext, hdone⟩ := bind_eq_ok_iff.1 hlast
  obtain rfl := Except.ok.inj hdone
  have hdir := find?_of_follow_eq_ok hnext
  obtain rfl : step here last = next := by
    rw [follow, hdir] at hnext
    exact Except.ok.inj hnext
  -- a step that is no name ends at a directory
  have hother : t.find? (step here last) ≠ some .directory := by simp [hfile]
  rw [step] at hother ⊢
  split_ifs at hother ⊢ with hstay hup
  · exact absurd hdir hother
  · refine absurd ?_ hother
    cases here using List.reverseRecOn with
    | nil => rfl
    | append_singleton here name =>
      rw [List.dropLast_concat]
      simpa using hw.find?_take hdir (k := here.length) (by simp)
  · simp only [Bool.or_eq_true, decide_eq_true_eq, not_or, List.isEmpty_iff] at hstay
    rw [Path.fileName?, getLast?_components hsplit hstay.1 hstay.2 hup]
    simp

end FileTree

end Guideline
