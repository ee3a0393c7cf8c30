import Guideline.Text.Affix
import Mathlib.Data.List.Basic

/-!
# Pieces between separators

Splitting at a separator undoes joining with it (`splitAtChar_intercalate`), and loses nothing but the
separators (`flatten_splitAtChar`).
-/

namespace Guideline.Text

variable {sep c : Char} {a b cs : List Char}

theorem splitAtChar_ne_nil (sep : Char) (cs : List Char) : splitAtChar sep cs ≠ [] := by
  cases cs with
  | nil => simp [splitAtChar]
  | cons c cs =>
    rw [splitAtChar]
    split
    · simp
    · split_ifs <;> simp

theorem splitAtChar_cons_self (sep : Char) (cs : List Char) :
    splitAtChar sep (sep :: cs) = [] :: splitAtChar sep cs := by
  rw [splitAtChar]
  cases h : splitAtChar sep cs with
  | nil => exact absurd h (splitAtChar_ne_nil sep cs)
  | cons piece more => exact if_pos rfl

theorem splitAtChar_cons_of_ne (hc : c ≠ sep) (cs : List Char) :
    splitAtChar sep (c :: cs) = (splitAtChar sep cs).modifyHead (c :: ·) := by
  rw [splitAtChar]
  cases h : splitAtChar sep cs with
  | nil => exact absurd h (splitAtChar_ne_nil sep cs)
  | cons piece more =>
    simp only [if_neg hc]
    rfl

theorem splitAtChar_append_cons (sep : Char) (a b : List Char) :
    splitAtChar sep (a ++ sep :: b) = splitAtChar sep a ++ splitAtChar sep b := by
  induction a with
  | nil => exact splitAtChar_cons_self sep b
  | cons c a ih =>
    rw [List.cons_append]
    by_cases hc : c = sep
    · rw [hc, splitAtChar_cons_self, splitAtChar_cons_self, ih, List.cons_append]
    · rw [splitAtChar_cons_of_ne hc, splitAtChar_cons_of_ne hc, ih]
      cases h : splitAtChar sep a with
      | nil => exact absurd h (splitAtChar_ne_nil sep a)
      | cons piece more => rfl

theorem splitAtChar_of_notMem (h : sep ∉ cs) : splitAtChar sep cs = [cs] := by
  induction cs with
  | nil => rfl
  | cons c cs ih =>
    rw [List.mem_cons, not_or] at h
    rw [splitAtChar_cons_of_ne (Ne.symm h.1), ih h.2]
    rfl

theorem splitAtChar_intercalate {pieces : List (List Char)} (hne : pieces ≠ [])
    (h : ∀ piece ∈ pieces, sep ∉ piece) : splitAtChar sep ([sep].intercalate pieces) = pieces := by
  induction pieces with
  | nil => exact absurd rfl hne
  | cons piece pieces ih =>
    obtain ⟨hpiece, hpieces⟩ := List.forall_mem_cons.1 h
    cases pieces with
    | nil =>
      rw [List.intercalate_singleton]
      exact splitAtChar_of_notMem hpiece
    | cons next pieces =>
      rw [List.intercalate_cons_cons, List.append_assoc, List.singleton_append, splitAtChar_append_cons,
        splitAtChar_of_notMem hpiece, ih (by simp) hpieces]
      rfl

theorem intercalate_append {α : Type} {sep : List α} {a b : List (List α)} (ha : a ≠ []) (hb : b ≠ []) :
    sep.intercalate (a ++ b) = sep.intercalate a ++ sep ++ sep.intercalate b := by
  obtain ⟨y, b, rfl⟩ := List.exists_cons_of_ne_nil hb
  induction a with
  | nil => exact absurd rfl ha
  | cons x a ih =>
    cases a with
    | nil => simp [List.intercalate_cons_cons]
    | cons x' a =>
      have hrest := ih (by simp)
      rw [List.cons_append] at hrest
      rw [List.cons_append, List.cons_append, List.intercalate_cons_cons, hrest,
        List.intercalate_cons_cons]
      simp

theorem intercalate_append_cons {α : Type} (sep a b : List α) (pieces : List (List α)) :
    sep.intercalate ((a ++ b) :: pieces) = a ++ sep.intercalate (b :: pieces) := by
  cases pieces with
  | nil => simp
  | cons piece pieces => simp [List.intercalate_cons_cons]

theorem notMem_intercalate {pieces : List (List Char)} (hc : c ≠ sep) (h : ∀ piece ∈ pieces, c ∉ piece) :
    c ∉ [sep].intercalate pieces := by
  induction pieces with
  | nil => simp
  | cons piece pieces ih =>
    obtain ⟨hpiece, hpieces⟩ := List.forall_mem_cons.1 h
    cases pieces with
    | nil => simpa using hpiece
    | cons next pieces =>
      rw [List.intercalate_cons_cons, List.mem_append, List.mem_append, List.mem_singleton]
      rintro ((hmem | hmem) | hmem)
      · exact hpiece hmem
      · exact hc hmem
      · exact ih hpieces hmem

theorem flatten_splitAtChar (sep : Char) (cs : List Char) :
    (splitAtChar sep cs).flatten = cs.filter (· ≠ sep) := by
  induction cs with
  | nil => rfl
  | cons c cs ih =>
    by_cases hc : c = sep
    · rw [hc, splitAtChar_cons_self, List.flatten_cons, ih]
      simp
    · rw [splitAtChar_cons_of_ne hc, List.filter_cons_of_pos (by simpa using hc), ← ih]
      cases h : splitAtChar sep cs with
      | nil => exact absurd h (splitAtChar_ne_nil sep cs)
      | cons piece more => rfl

/-! ### The first separator -/

theorem takeWhile_ne (ha : sep ∉ a) (b : List Char) : (a ++ sep :: b).takeWhile (· ≠ sep) = a := by
  have hne : ∀ c ∈ a, decide (c ≠ sep) = true := fun c hc => decide_eq_true (ne_of_mem_of_not_mem hc ha)
  rw [List.takeWhile_append_of_pos hne, List.takeWhile_cons_of_neg (by simp), List.append_nil]

theorem dropWhile_ne (ha : sep ∉ a) (b : List Char) :
    (a ++ sep :: b).dropWhile (· ≠ sep) = sep :: b := by
  have hne : ∀ c ∈ a, decide (c ≠ sep) = true := fun c hc => decide_eq_true (ne_of_mem_of_not_mem hc ha)
  rw [List.dropWhile_append_of_pos hne, List.dropWhile_cons_of_neg (by simp)]

end Guideline.Text
