import Guideline.Path
import Guideline.Proofs.Text.Split

/-!
# Spellings of a path

A path may be written with separators and points that lead nowhere. `SamePath` compares what is left
without them. Paths are spellings of one path if and only if their components are the same once a leading
`.` is dropped (`normalComponents_eq_iff`); `normalize` picks one spelling of each path (`normalize_eq_iff`).
-/

namespace Guideline.Path

/-- A piece between separators that leads somewhere. -/
def IsStep (piece : List Char) : Prop :=
  piece ≠ [] ∧ piece ≠ ['.']

instance (piece : List Char) : Decidable (IsStep piece) :=
  inferInstanceAs (Decidable (_ ∧ _))

/-- The pieces of a path that lead somewhere. -/
def steps (path : String) : List (List Char) :=
  (Text.splitAtChar '/' path.toList).filter IsStep

def IsAbsolute (path : String) : Prop :=
  path.toList.head? = some '/'

instance (path : String) : Decidable (IsAbsolute path) :=
  inferInstanceAs (Decidable (_ = _))

/-- Spellings of one path: they differ in `.` components and repeated or trailing separators only. -/
@[mk_iff]
structure SamePath (p q : String) : Prop where
  absolute : IsAbsolute p ↔ IsAbsolute q
  steps : steps p = steps q

instance (p q : String) : Decidable (SamePath p q) :=
  decidable_of_iff _ (samePath_iff p q).symm

namespace SamePath

variable {p q r : String}

theorem symm (h : SamePath p q) : SamePath q p :=
  ⟨h.absolute.symm, h.steps.symm⟩

theorem trans (h : SamePath p q) (h' : SamePath q r) : SamePath p r :=
  ⟨h.absolute.trans h'.absolute, h.steps.trans h'.steps⟩

end SamePath

/-! ### Steps and components -/

/-- The component of a piece that leads somewhere. -/
def ofStep (piece : List Char) : Component :=
  if piece = ['.', '.'] then .parent else .normal (String.ofList piece)

theorem text_ofStep (piece : List Char) : (ofStep piece).text = String.ofList piece := by
  rw [ofStep]
  split_ifs with h
  · rw [h]
    rfl
  · rfl

theorem ofStep_injective : Function.Injective ofStep := by
  intro a b h
  have htext := congrArg Component.text h
  rwa [text_ofStep, text_ofStep, String.ofList_inj] at htext

theorem ofStep_ne_root (piece : List Char) : ofStep piece ≠ .root := by
  rw [ofStep]
  split_ifs <;> simp

/-- A piece has a component besides a leading `.` if and only if it leads somewhere. -/
theorem filter_component? (isFirst : Bool) (piece : List Char) :
    (component? isFirst piece).toList.filter (· ≠ .current) =
      ([piece].filter IsStep).map ofStep := by
  rw [component?]
  split_ifs <;> simp_all [IsStep, ofStep]

theorem filter_filterMap_component? (pieces : List (List Char)) :
    (pieces.filterMap (component? false)).filter (· ≠ .current) = (pieces.filter IsStep).map ofStep := by
  induction pieces with
  | nil => rfl
  | cons piece pieces ih =>
    have hcons : (piece :: pieces).filterMap (component? false) =
        (component? false piece).toList ++ pieces.filterMap (component? false) := by
      cases hc : component? false piece <;> simp [hc]
    rw [hcons, List.filter_append, ih, filter_component?, ← List.map_append, ← List.filter_append,
      List.singleton_append]

/-- The components of a path: the leading separator, then one for each step. -/
theorem normalComponents_eq (path : String) : normalComponents path =
    (if IsAbsolute path then [.root] else []) ++ (steps path).map ofStep := by
  rw [normalComponents, components, steps]
  cases hsplit : Text.splitAtChar '/' path.toList with
  | nil => exact absurd hsplit (Text.splitAtChar_ne_nil _ _)
  | cons first rest =>
    rw [List.filter_append, filter_filterMap_component?]
    by_cases habsolute : IsAbsolute path
    · have hhead : path.toList.head? = some '/' := habsolute
      rw [if_pos hhead, if_pos habsolute]
      -- nothing stands before the leading separator
      obtain ⟨cs, hcs⟩ := List.head?_eq_some_iff.1 hhead
      rw [hcs, Text.splitAtChar_cons_self] at hsplit
      obtain ⟨rfl, -⟩ := List.cons.inj hsplit
      rfl
    · have hhead : path.toList.head? ≠ some '/' := habsolute
      rw [if_neg hhead, if_neg habsolute, filter_component?, ← List.map_append, ← List.filter_append,
        List.singleton_append, List.nil_append]

theorem normalComponents_eq_iff {p q : String} :
    normalComponents p = normalComponents q ↔ SamePath p q := by
  rw [normalComponents_eq, normalComponents_eq, samePath_iff]
  have hsteps : (steps p).map ofStep = (steps q).map ofStep ↔ steps p = steps q :=
    (List.map_injective_iff.2 ofStep_injective).eq_iff
  have hroot : ∀ (l l' : List (List Char)), Component.root :: l.map ofStep ≠ l'.map ofStep := by
    intro l l' h
    obtain ⟨piece, -, hpiece⟩ := List.mem_map.1 (h ▸ List.mem_cons_self)
    exact ofStep_ne_root piece hpiece
  by_cases hp : IsAbsolute p <;> by_cases hq : IsAbsolute q
  · simp [hp, hq, hsteps]
  · simp [hp, hq, hroot]
  · simp [hp, hq, (hroot _ _).symm]
  · simp [hp, hq, hsteps]

/-! ### The normal spelling -/

theorem toList_normalize (path : String) : (normalize path).toList =
    (if IsAbsolute path then ['/'] else []) ++ ['/'].intercalate (steps path) := by
  have htexts : ∀ l : List (List Char), ("/".intercalate ((l.map ofStep).map Component.text)).toList =
      ['/'].intercalate l := by
    intro l
    have htext : (String.toList ∘ Component.text) ∘ ofStep = id := by
      funext piece
      simp [text_ofStep]
    rw [String.toList_intercalate, List.map_map, List.map_map, htext, List.map_id]
    rfl
  rw [normalize, normalComponents_eq]
  split_ifs with habsolute
  · rw [List.singleton_append, ofComponents, String.toList_append, htexts]
    rfl
  · rw [List.nil_append, List.nil_append, ← htexts]
    cases hsteps : steps path with
    | nil => rfl
    | cons piece pieces =>
      rw [List.map_cons, ofComponents]
      intro rest h
      exact ofStep_ne_root piece (List.cons.inj h).1

theorem notMem_of_mem_steps {path : String} {piece : List Char} (h : piece ∈ steps path) : '/' ∉ piece := by
  intro hslash
  have hmem := List.mem_flatten_of_mem (List.mem_of_mem_filter h) hslash
  rw [Text.flatten_splitAtChar, List.mem_filter] at hmem
  simp at hmem

theorem isStep_of_mem_steps {path : String} {piece : List Char} (h : piece ∈ steps path) : IsStep piece :=
  of_decide_eq_true (List.mem_filter.1 h).2

/-- The pieces of the normal spelling: its steps, and an empty piece where there is nothing to join. -/
theorem splitAtChar_normalize (path : String) : Text.splitAtChar '/' (normalize path).toList =
    (if IsAbsolute path then [[]] else []) ++ (if steps path = [] then [[]] else steps path) := by
  have hjoined : Text.splitAtChar '/' (['/'].intercalate (steps path)) =
      if steps path = [] then [[]] else steps path := by
    split_ifs with h
    · rw [h]
      rfl
    · exact Text.splitAtChar_intercalate h fun piece => notMem_of_mem_steps
  rw [toList_normalize, ← hjoined]
  by_cases habsolute : IsAbsolute path
  · rw [if_pos habsolute, if_pos habsolute, List.singleton_append, Text.splitAtChar_cons_self]
    rfl
  · rw [if_neg habsolute, if_neg habsolute, List.nil_append, List.nil_append]

theorem steps_normalize (path : String) : steps (normalize path) = steps path := by
  have hself : (steps path).filter IsStep = steps path :=
    List.filter_eq_self.2 fun piece h => decide_eq_true (isStep_of_mem_steps h)
  rw [steps, splitAtChar_normalize, List.filter_append]
  split_ifs with habsolute hsteps hsteps
  · rw [hsteps]
    rfl
  · exact hself
  · rw [hsteps]
    rfl
  · exact hself

theorem isAbsolute_normalize_iff (path : String) : IsAbsolute (normalize path) ↔ IsAbsolute path := by
  rw [IsAbsolute, toList_normalize]
  by_cases habsolute : IsAbsolute path
  · simp [habsolute]
  · refine iff_of_false ?_ habsolute
    rw [if_neg habsolute, List.nil_append]
    cases hsteps : steps path with
    | nil => simp
    | cons piece pieces =>
      -- the first step is not empty and has no separator
      have hmem : piece ∈ steps path := by simp [hsteps]
      rw [← List.append_nil piece, Text.intercalate_append_cons,
        List.head?_append_of_ne_nil _ (isStep_of_mem_steps hmem).1]
      exact fun hhead => notMem_of_mem_steps hmem (List.mem_of_mem_head? hhead)

theorem samePath_normalize (path : String) : SamePath (normalize path) path :=
  ⟨isAbsolute_normalize_iff path, steps_normalize path⟩

theorem component?_ne_current {isFirst : Bool} {piece : List Char} (h : isFirst = true → piece ≠ ['.']) :
    component? isFirst piece ≠ some .current := by
  rw [component?]
  split_ifs <;> simp_all

/-- The components of the normal spelling are those of the path without a leading `.`. -/
theorem components_normalize (path : String) : components (normalize path) = normalComponents path := by
  rw [← normalComponents_eq_iff.2 (samePath_normalize path), normalComponents, eq_comm, List.filter_eq_self]
  suffices hcurrent : .current ∉ components (normalize path) by
    exact fun c hc => decide_eq_true (ne_of_mem_of_not_mem hc hcurrent)
  rw [components]
  cases hsplit : Text.splitAtChar '/' (normalize path).toList with
  | nil => simp
  | cons first rest =>
    have hfirst : first ≠ ['.'] := by
      have hmem : first = [] ∨ first ∈ steps path := by
        rw [splitAtChar_normalize] at hsplit
        split_ifs at hsplit <;> simp_all
      rcases hmem with rfl | hmem
      · simp
      · exact (isStep_of_mem_steps hmem).2
    rw [List.mem_append, not_or]
    refine ⟨?_, ?_⟩
    · split_ifs
      · simp
      · simpa using component?_ne_current fun _ => hfirst
    · intro hmem
      obtain ⟨piece, -, hpiece⟩ := List.mem_filterMap.1 hmem
      exact component?_ne_current (by simp) hpiece

/-- `normalize` gives all spellings of a path the same spelling. -/
theorem normalize_eq_iff {p q : String} : normalize p = normalize q ↔ SamePath p q := by
  refine ⟨fun h => ?_, fun h => ?_⟩
  · have hp := samePath_normalize p
    rw [h] at hp
    exact hp.symm.trans (samePath_normalize q)
  · rw [normalize, normalComponents_eq_iff.2 h, normalize]

end Guideline.Path
