import Guideline.Proofs.Collection.Selection
import Guideline.Proofs.Collection.StableSort
import Guideline.Review.Result
import Mathlib.Data.List.Basic

/-!
# The order of reports

Violations are sorted by file first, so sorting and the removal of duplicates on one line both work on
each file by itself: a report on several files is made of the reports on each, in the order of files.
-/

namespace Guideline

namespace Violation

theorem reportOrder_eq_compareLex : reportOrder =
    compareLex (compareOn filePath) (compareLex (compareOn line) (compareOn rule)) :=
  rfl

instance : Std.TransCmp reportOrder := by
  rw [reportOrder_eq_compareLex]; infer_instance

/-- The order that reports are sorted by. -/
def reportLE (a b : Violation) : Bool :=
  (a.reportOrder b).isLE

theorem reportLE_trans (a b c : Violation) (hab : reportLE a b = true) (hbc : reportLE b c = true) :
    reportLE a c = true :=
  Std.TransCmp.isLE_trans hab hbc

theorem reportLE_total (a b : Violation) : (reportLE a b || reportLE b a) = true :=
  Collection.isLE_total reportOrder a b

theorem filePath_eq_of_tied {a b : Violation} (h : Collection.tied reportLE a b = true) :
    a.filePath = b.filePath := by
  rw [Collection.tied, Bool.and_eq_true] at h
  have heq : a.reportOrder b = .eq := Std.OrientedCmp.isLE_antisymm h.1 h.2
  exact Std.LawfulEqCmp.eq_of_compare (Ordering.then_eq_eq.1 heq).1

theorem reportLE_of_filePath_lt {a b : Violation} (h : compare a.filePath b.filePath = .lt) :
    reportLE a b = true := by
  rw [reportLE, reportOrder, h]
  rfl

theorem pairwise_sortForReport (vs : List Violation) :
    (sortForReport vs).Pairwise (reportLE · ·) :=
  List.pairwise_mergeSort reportLE_trans reportLE_total vs

theorem mem_sortForReport {vs : List Violation} {v : Violation} : v ∈ sortForReport vs ↔ v ∈ vs :=
  List.mem_mergeSort

end Violation

open Collection Violation

/-- The violations of each item are in a file of its own. -/
def InOwnFile {α : Type} (file : α → String) (found : α → List Violation) : Prop :=
  ∀ a, ∀ v ∈ found a, v.filePath = file a

section

variable {α : Type} {file : α → String} {found : α → List Violation}

/-- Sorting the violations of several files sorts those of each file and puts the files in order. -/
theorem sortForReport_flatMap (hown : InOwnFile file found) {l sorted : List α} (hperm : sorted.Perm l)
    (hsorted : sorted.Pairwise fun a b => compare (file a) (file b) = .lt) :
    sortForReport (l.flatMap found) = sorted.flatMap fun a => sortForReport (found a) := by
  refine mergeSort_eq_of_filter_tied reportLE_trans reportLE_total (fun v => ?_) ?_
  · -- The violations tied with `v` are all in one file.
    have hone : sorted.Pairwise fun a b =>
        (found a).filter (tied reportLE v) = [] ∨ (found b).filter (tied reportLE v) = [] := by
      refine hsorted.imp fun {a b} hab => ?_
      by_contra hboth
      rw [not_or] at hboth
      obtain ⟨x, hx⟩ := List.exists_mem_of_ne_nil _ hboth.1
      obtain ⟨y, hy⟩ := List.exists_mem_of_ne_nil _ hboth.2
      obtain ⟨hx, hvx⟩ := List.mem_filter.1 hx
      obtain ⟨hy, hvy⟩ := List.mem_filter.1 hy
      refine ne_of_compare_lt hab ?_
      rw [← hown a x hx, ← hown b y hy, ← filePath_eq_of_tied hvx,
        ← filePath_eq_of_tied hvy]
    rw [List.filter_flatMap, List.filter_flatMap, ← flatMap_eq_of_perm hperm hone]
    refine List.flatMap_congr fun a _ => ?_
    exact (filter_tied_mergeSort reportLE_trans reportLE_total (found a) v).symm
  · refine List.pairwise_flatMap.2 ⟨fun a _ => pairwise_sortForReport (found a), ?_⟩
    refine hsorted.imp fun {a b} hab x hx y hy => reportLE_of_filePath_lt ?_
    rw [hown a x (mem_sortForReport.1 hx), hown b y (mem_sortForReport.1 hy)]
    exact hab

/-! ### Duplicates on one line -/

theorem dedupeFrom_sublist (kept : Violation) (vs : List Violation) :
    (dedupeFrom kept vs).Sublist (kept :: vs) := by
  induction vs generalizing kept with
  | nil => exact .refl _
  | cons w vs ih =>
    rw [dedupeFrom]
    split_ifs
    · exact (ih w).cons kept
    · exact (ih kept).trans (((List.Sublist.refl vs).cons w).cons_cons kept)
    · exact (ih w).cons_cons kept

theorem dedupeSameLine_sublist (vs : List Violation) : (dedupeSameLine vs).Sublist vs := by
  cases vs with
  | nil => exact .refl _
  | cons v vs => exact dedupeFrom_sublist v vs

theorem dedupeFrom_append {kept : Violation} {vs ws : List Violation}
    (h : ∀ v ∈ kept :: vs, ∀ w ∈ ws, v.sameLine w = false) :
    dedupeFrom kept (vs ++ ws) = dedupeFrom kept vs ++ dedupeSameLine ws := by
  induction vs generalizing kept with
  | nil =>
    cases ws with
    | nil => rfl
    | cons w ws =>
      have hne : ¬ kept.sameLine w = true := by simp [h kept (by simp) w (by simp)]
      rw [List.nil_append, dedupeFrom.eq_2, if_neg hne]
      rfl
  | cons v vs ih =>
    have hv : ∀ x ∈ v :: vs, ∀ w ∈ ws, x.sameLine w = false :=
      fun x hx => h x (List.mem_cons_of_mem _ hx)
    have hkept : ∀ x ∈ kept :: vs, ∀ w ∈ ws, x.sameLine w = false := by
      intro x hx
      refine h x ?_
      simp only [List.mem_cons] at hx ⊢
      tauto
    rw [List.cons_append, dedupeFrom, dedupeFrom]
    split_ifs
    · exact ih hv
    · exact ih hkept
    · rw [ih hv]
      rfl

theorem dedupeSameLine_append {vs ws : List Violation}
    (h : ∀ v ∈ vs, ∀ w ∈ ws, v.sameLine w = false) :
    dedupeSameLine (vs ++ ws) = dedupeSameLine vs ++ dedupeSameLine ws := by
  cases vs with
  | nil => rfl
  | cons v vs => exact dedupeFrom_append h

theorem dedupeSameLine_flatMap (hown : InOwnFile file found) {l : List α}
    (hl : l.Pairwise fun a b => file a ≠ file b) :
    dedupeSameLine (l.flatMap found) = l.flatMap fun a => dedupeSameLine (found a) := by
  induction l with
  | nil => rfl
  | cons a l ih =>
    obtain ⟨ha, hl⟩ := List.pairwise_cons.1 hl
    rw [List.flatMap_cons, List.flatMap_cons, dedupeSameLine_append, ih hl]
    intro v hv w hw
    obtain ⟨b, hb, hw⟩ := List.mem_flatMap.1 hw
    have hne : v.filePath ≠ w.filePath := by
      rw [hown a v hv, hown b w hw]
      exact ha b hb
    simp [sameLine, hne]

end

end Guideline
