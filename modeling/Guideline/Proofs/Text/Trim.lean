import Guideline.Proofs.Text.Lines
import Mathlib.Data.List.TakeWhile

/-!
# Trimming

What trimming takes from a text, told by where its blanks stand.
-/

namespace Guideline.Text

theorem trimEnd_append_of_isBlank {b : Char} (hb : isBlank b = true) (a : List Char) :
    trimEnd (a ++ [b]) = trimEnd a := by
  simp [trimEnd, hb]

theorem trimEnd_sublist (cs : List Char) : (trimEnd cs).Sublist cs := by
  have h := (List.dropWhile_sublist isBlank (l := cs.reverse)).reverse
  rwa [List.reverse_reverse] at h

/-- The text neither starts nor ends with white space. -/
structure IsTrimmed (cs : List Char) : Prop where
  first : ∀ c ∈ cs.head?, isBlank c = false
  last : ∀ c ∈ cs.getLast?, isBlank c = false

namespace IsTrimmed

variable {a b cs : List Char}

theorem of_forall (h : ∀ c ∈ cs, isBlank c = false) : IsTrimmed cs :=
  ⟨fun c hc => h c (List.mem_of_mem_head? hc), fun c hc => h c (List.mem_of_mem_getLast? hc)⟩

theorem of_all (h : (cs.all fun c => !isBlank c) = true) : IsTrimmed cs :=
  of_forall fun c hc => by simpa using List.all_eq_true.1 h c hc

/-- What stands between two such texts does not count. -/
theorem enclose (ha : IsTrimmed a) (hane : a ≠ []) (hb : IsTrimmed b) (hbne : b ≠ []) (m : List Char) :
    IsTrimmed (a ++ (m ++ b)) := by
  refine ⟨fun c hc => ha.first c ?_, fun c hc => hb.last c ?_⟩
  · rwa [List.head?_append_of_ne_nil a hane] at hc
  · rwa [List.getLast?_append_of_ne_nil _ (by simp [hbne]), List.getLast?_append_of_ne_nil _ hbne] at hc

theorem dropWhile_isBlank_eq_self (h : ∀ c ∈ cs.head?, isBlank c = false) : cs.dropWhile isBlank = cs := by
  cases cs with
  | nil => rfl
  | cons c cs => rw [List.dropWhile_cons_of_neg (by simp [h c rfl])]

/-- Trimming takes the white space around the text, and nothing else. -/
theorem trim_eq (h : IsTrimmed cs) (ha : allBlank a = true) (hb : allBlank b = true) :
    trim (a ++ (cs ++ b)) = cs := by
  have hstart : trimStart (a ++ (cs ++ b)) = (cs ++ b).dropWhile isBlank :=
    List.dropWhile_append_of_pos (List.all_eq_true.1 ha)
  rw [trim, hstart]
  cases cs with
  | nil =>
    rw [List.nil_append, List.dropWhile_eq_nil_iff.2 (List.all_eq_true.1 hb)]
    rfl
  | cons c cs =>
    have hlast := h.last
    rw [← List.head?_reverse] at hlast
    rw [dropWhile_isBlank_eq_self (by simpa using h.first), trimEnd, List.reverse_append,
      List.dropWhile_append_of_pos (by simpa [allBlank] using hb), dropWhile_isBlank_eq_self hlast,
      List.reverse_reverse]

theorem trim_append (h : IsTrimmed cs) (ha : allBlank a = true) : trim (a ++ cs) = cs := by
  have htrim := h.trim_eq (b := []) ha rfl
  rwa [List.append_nil] at htrim

end IsTrimmed

end Guideline.Text
