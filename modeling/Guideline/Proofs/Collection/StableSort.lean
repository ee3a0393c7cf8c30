import Mathlib.Data.List.Basic
import Mathlib.Tactic.Common

/-!
# Stable sorting

Sorting by a preorder keeps the order of elements that are equivalent in it. So a sorted list is
determined by its classes of equivalent elements (`eq_of_filter_tied`), and sorting does not see how
elements of different classes were mixed (`mergeSort_eq_of_filter_tied`).
-/

namespace Guideline.Collection

/-- A comparison puts any two elements in one order or the other. -/
theorem isLE_total {α : Type} (cmp : α → α → Ordering) [Std.OrientedCmp cmp] (a b : α) :
    ((cmp a b).isLE || (cmp b a).isLE) = true := by
  have hswap : cmp b a = (cmp a b).swap := Std.OrientedCmp.eq_swap
  rw [hswap]
  cases cmp a b <;> rfl

theorem ne_of_compare_lt {s t : String} (h : compare s t = .lt) : s ≠ t := by
  rintro rfl
  have hself : compare s s = .eq := Std.ReflCmp.compare_self
  rw [hself] at h
  contradiction

/-- In a list in order, neighbours that differ make all elements differ. -/
theorem pairwise_lt_of_isChain_ne {α : Type} {cmp : α → α → Ordering} [Std.TransCmp cmp]
    [Std.LawfulEqCmp cmp] {l : List α} (hne : l.IsChain (· ≠ ·))
    (hle : l.Pairwise fun a b => (cmp a b).isLE = true) : l.Pairwise fun a b => cmp a b = .lt := by
  induction l with
  | nil => exact .nil
  | cons a l ih =>
    cases l with
    | nil => exact List.pairwise_singleton ..
    | cons b l =>
      obtain ⟨hab, hne⟩ := List.isChain_cons_cons.1 hne
      obtain ⟨ha, hle⟩ := List.pairwise_cons.1 hle
      have hrest := ih hne hle
      have hlt : cmp a b = .lt := by
        cases hcmp : cmp a b with
        | lt => rfl
        | eq => exact absurd (Std.LawfulEqCmp.eq_of_compare hcmp) hab
        | gt => simpa [hcmp] using ha b List.mem_cons_self
      refine List.pairwise_cons.2 ⟨List.forall_mem_cons.2 ⟨hlt, fun c hc => ?_⟩, hrest⟩
      exact Std.TransCmp.lt_trans hlt ((List.pairwise_cons.1 hrest).1 c hc)

variable {α : Type} {le : α → α → Bool}

/-- The elements are equivalent in the preorder. -/
def tied (le : α → α → Bool) (a b : α) : Bool :=
  le a b && le b a

theorem eq_of_filter_tied (hrefl : ∀ a, le a a = true) {l l' : List α} (hl : l.Pairwise (le · ·))
    (hl' : l'.Pairwise (le · ·)) (h : ∀ a, l.filter (tied le a) = l'.filter (tied le a)) : l = l' := by
  have htied : ∀ a, tied le a a = true := fun a => by simp [tied, hrefl]
  induction l generalizing l' with
  | nil =>
    cases l' with
    | nil => rfl
    | cons b l' =>
      have := h b
      rw [List.filter_cons_of_pos (htied b)] at this
      simp at this
  | cons a l ih =>
    cases l' with
    | nil =>
      have := h a
      rw [List.filter_cons_of_pos (htied a)] at this
      simp at this
    | cons b l' =>
      have hmem : ∀ {x : α} {m m' : List α}, m.filter (tied le x) = m'.filter (tied le x) → x ∈ m →
          x ∈ m' := fun hx hm =>
        List.mem_of_mem_filter (hx ▸ List.mem_filter.2 ⟨hm, htied _⟩)
      have hle : ∀ {x y : α} {m : List α}, (x :: m).Pairwise (le · ·) → y ∈ x :: m → le x y = true := by
        intro x y m hm hy
        rcases List.mem_cons.1 hy with rfl | hy
        · exact hrefl y
        · exact (List.pairwise_cons.1 hm).1 y hy
      have hab : tied le a b = true := by
        rw [tied, hle hl (hmem (h b).symm (by simp)), hle hl' (hmem (h a) (by simp))]
        rfl
      have hfirst := h a
      rw [List.filter_cons_of_pos (htied a), List.filter_cons_of_pos hab] at hfirst
      obtain ⟨rfl, -⟩ := List.cons.inj hfirst
      refine congrArg (a :: ·) (ih hl.of_cons hl'.of_cons fun x => ?_)
      have hx := h x
      by_cases hxa : tied le x a = true
      · rw [List.filter_cons_of_pos hxa, List.filter_cons_of_pos hxa] at hx
        exact (List.cons.inj hx).2
      · rwa [List.filter_cons_of_neg hxa, List.filter_cons_of_neg hxa] at hx

section

variable (trans : ∀ a b c, le a b = true → le b c = true → le a c = true)
  (total : ∀ a b, (le a b || le b a) = true)

include trans total

/-- Sorting keeps every class of equivalent elements in its order. -/
theorem filter_tied_mergeSort (l : List α) (a : α) :
    (l.mergeSort le).filter (tied le a) = l.filter (tied le a) := by
  have hclass : (l.filter (tied le a)).Pairwise (le · ·) := by
    refine List.pairwise_of_forall_mem_list fun x hx y hy => ?_
    have hx := (List.mem_filter.1 hx).2
    have hy := (List.mem_filter.1 hy).2
    rw [tied, Bool.and_eq_true] at hx hy
    exact trans x a y hx.2 hy.1
  have hsub := (List.sublist_mergeSort trans total hclass List.filter_sublist).filter (tied le a)
  rw [List.filter_filter] at hsub
  simp only [Bool.and_self] at hsub
  exact (hsub.eq_of_length ((List.mergeSort_perm l le).filter _).length_eq.symm).symm

theorem mergeSort_eq_of_filter_tied {l l' : List α}
    (h : ∀ a, l.filter (tied le a) = l'.filter (tied le a)) (hl' : l'.Pairwise (le · ·)) :
    l.mergeSort le = l' := by
  refine eq_of_filter_tied (fun a => by simpa using total a a)
    (List.pairwise_mergeSort trans total l) hl' fun a => ?_
  rw [filter_tied_mergeSort trans total, h]

/-- Sorting commutes with leaving elements out. -/
theorem mergeSort_filter (p : α → Bool) (l : List α) :
    (l.filter p).mergeSort le = (l.mergeSort le).filter p := by
  refine mergeSort_eq_of_filter_tied trans total (fun a => ?_)
    ((List.pairwise_mergeSort trans total l).sublist List.filter_sublist)
  rw [List.filter_comm, List.filter_comm _ p, filter_tied_mergeSort trans total]

end

end Guideline.Collection
