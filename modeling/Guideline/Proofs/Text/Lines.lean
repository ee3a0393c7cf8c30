import Guideline.Text.Blank
import Guideline.Text.Lines
import Mathlib.Data.List.Basic

/-!
# Lines of composed texts

`unlines` writes lines with a line feed after each. Reading them back (`lines_unlines_append`) gives
the same lines, less a carriage return at the end of one, whatever text follows.
-/

namespace Guideline.Text

/-- Puts a character before the first line. -/
def prepend (c : Char) : List (List Char) → List (List Char)
  | [] => [[c]]
  | line :: more => (c :: line) :: more

theorem lines_newline (t : List Char) : lines ('\n' :: t) = [] :: lines t := by
  rw [lines]

theorem lines_return_newline (t : List Char) : lines ('\r' :: '\n' :: t) = [] :: lines t := by
  rw [lines]

theorem lines_cons {c : Char} {t : List Char} (hc : c ≠ '\n')
    (ht : c = '\r' → t.head? ≠ some '\n') : lines (c :: t) = prepend c (lines t) := by
  rw [lines.eq_def]
  split
  · simp_all
  · simp_all
  · simp_all
  · rename_i heq
    obtain ⟨rfl, rfl⟩ := List.cons.inj heq
    split <;> rename_i hl <;> rw [hl] <;> rfl

/-- A line without the carriage return of its ending. -/
def chomp : List Char → List Char
  | [] => []
  | ['\r'] => []
  | c :: l => c :: chomp l

theorem chomp_cons_cons (c d : Char) (l : List Char) : chomp (c :: d :: l) = c :: chomp (d :: l) := by
  rw [chomp]; simp

theorem chomp_cons {c : Char} (hc : c ≠ '\r') (l : List Char) : chomp (c :: l) = c :: chomp l := by
  rw [chomp]; simp [hc]

theorem chomp_append {a : List Char} (ha : '\r' ∉ a) (b : List Char) :
    chomp (a ++ b) = a ++ chomp b := by
  induction a with
  | nil => rfl
  | cons c a ih =>
    rw [List.mem_cons, not_or] at ha
    rw [List.cons_append, chomp_cons (Ne.symm ha.1), ih ha.2, List.cons_append]

theorem eq_chomp_or (l : List Char) : l = chomp l ∨ l = chomp l ++ ['\r'] := by
  induction l with
  | nil => exact .inl rfl
  | cons c l ih =>
    by_cases h : c = '\r' ∧ l = []
    · obtain ⟨rfl, rfl⟩ := h
      exact .inr rfl
    · have hc : chomp (c :: l) = c :: chomp l := by
        cases l with
        | nil => exact chomp_cons (fun hc => h ⟨hc, rfl⟩) []
        | cons d l => exact chomp_cons_cons c d l
      rw [hc, List.cons_append, List.cons_inj_right, List.cons_inj_right]
      exact ih

theorem chomp_isPrefix (l : List Char) : chomp l <+: l := by
  rcases eq_chomp_or l with h | h
  · exact ⟨[], by rw [List.append_nil]; exact h.symm⟩
  · exact ⟨['\r'], h.symm⟩

theorem trimEnd_chomp (l : List Char) : trimEnd (chomp l) = trimEnd l := by
  rcases eq_chomp_or l with h | h
  · rw [← h]
  · conv_rhs => rw [h]
    simp [trimEnd, show isBlank '\r' = true by decide]

theorem trimEnd_append_of_not_isBlank {a : List Char} {c : Char} (hc : isBlank c = false) (b : List Char) :
    trimEnd (a ++ c :: b) = a ++ c :: trimEnd b := by
  rw [trimEnd, trimEnd, List.reverse_append, List.reverse_cons, List.append_assoc, List.dropWhile_append]
  split_ifs with h
  · rw [List.isEmpty_iff] at h
    simp [h, hc]
  · simp

theorem lines_append_newline {l : List Char} (hl : '\n' ∉ l) (t : List Char) :
    lines (l ++ '\n' :: t) = chomp l :: lines t := by
  induction l with
  | nil => exact lines_newline t
  | cons c l ih =>
    rw [List.mem_cons, not_or] at hl
    cases l with
    | nil =>
      by_cases hc : c = '\r'
      · subst hc; exact lines_return_newline t
      · rw [List.cons_append, lines_cons (Ne.symm hl.1) (absurd · hc), chomp_cons hc]
        rw [List.nil_append, lines_newline]
        rfl
    | cons d l =>
      have hd : d ≠ '\n' := fun h => hl.2 (by simp [h])
      rw [List.cons_append, lines_cons (Ne.symm hl.1) (by simp [hd]), ih hl.2, chomp_cons_cons]
      rfl

/-- A text that is empty or ends in a line feed leaves no line unfinished. -/
theorem lines_append {t : List Char} (ht : t = [] ∨ t.getLast? = some '\n') (u : List Char) :
    lines (t ++ u) = lines t ++ lines u := by
  induction hlen : t.length using Nat.strongRecOn generalizing t with
  | _ len ih =>
    rcases ht with rfl | hlast
    · rfl
    · -- The text is cut at its first line feed; if there is more, that ends in a line feed too.
      obtain ⟨l, rest, rfl, hl⟩ := List.eq_append_cons_of_mem (List.mem_of_getLast? hlast)
      have hrest : rest = [] ∨ rest.getLast? = some '\n' := by
        by_cases hnil : rest = []
        · exact .inl hnil
        · rw [List.getLast?_append_of_ne_nil _ (List.cons_ne_nil _ _),
            List.getLast?_cons_of_ne_nil hnil] at hlast
          exact .inr hlast
      have hlt : rest.length < len := by
        rw [List.length_append, List.length_cons] at hlen
        omega
      rw [List.append_assoc, List.cons_append, lines_append_newline hl, lines_append_newline hl,
        ih rest.length hlt hrest rfl, List.cons_append]

/-- The text of lines, with a line feed after each. -/
def unlines (ls : List (List Char)) : List Char :=
  ls.flatMap (· ++ ['\n'])

theorem unlines_cons (l : List Char) (ls : List (List Char)) :
    unlines (l :: ls) = l ++ '\n' :: unlines ls := by
  simp [unlines]

theorem lines_unlines_append {ls : List (List Char)} (h : ∀ l ∈ ls, '\n' ∉ l) (t : List Char) :
    lines (unlines ls ++ t) = ls.map chomp ++ lines t := by
  induction ls with
  | nil => rfl
  | cons l ls ih =>
    rw [unlines_cons, List.append_assoc, List.cons_append, lines_append_newline (h l (by simp)),
      ih fun l' hl' => h l' (by simp [hl'])]
    rfl

end Guideline.Text
