import Guideline.Text.Blank
import Guideline.Text.Digit
import Mathlib.Data.List.Basic

/-!
# Printed numbers and words

Numbers printed in base ten are read back by `readCount?`, and words that stand between blanks are
found by `words`.
-/

namespace Guideline.Text

/-! ### Numbers -/

theorem decimalDigit?_of_isDigit {c : Char} (h : c.isDigit) :
    decimalDigit? c = some (c.toNat - '0'.toNat) := by
  simp only [Char.isDigit, Bool.and_eq_true, decide_eq_true_eq] at h
  rw [decimalDigit?, if_pos ⟨h.1, h.2⟩]

theorem digitsValue?_foldl {cs : List Char} (h : ∀ c ∈ cs, c.isDigit) (n : Nat) :
    cs.foldl (fun n c => n.bind fun n => (decimalDigit? c).map (n * 10 + ·)) (some n) =
      some (Nat.ofDigitChars 10 cs n) := by
  induction cs generalizing n with
  | nil => rfl
  | cons c cs ih =>
    rw [List.foldl_cons, decimalDigit?_of_isDigit (h c (by simp)), Nat.ofDigitChars_cons,
      Nat.mul_comm 10 n]
    exact ih (fun d hd => h d (by simp [hd])) _

theorem isDigit_of_mem_decimal {n : Nat} {c : Char} (h : c ∈ Nat.toDigits 10 n) : c.isDigit :=
  Nat.isDigit_of_mem_toDigits (by decide) (by decide) h

theorem digitsValue?_toDigits (n : Nat) : digitsValue? 10 decimalDigit? (Nat.toDigits 10 n) = some n := by
  rw [digitsValue?, digitsValue?_foldl fun c => isDigit_of_mem_decimal, Nat.ofDigitChars_ten_toDigits]

theorem readCount?_decimal {n : Nat} (h : n ≤ maxCount) : readCount? (Nat.toDigits 10 n) = some n := by
  have hplus : '+' ∉ Nat.toDigits 10 n := fun hmem =>
    absurd (isDigit_of_mem_decimal hmem) (by decide)
  have hvalue := digitsValue?_toDigits n
  have hne : Nat.toDigits 10 n ≠ [] := Nat.toDigits_ne_nil
  have hdigits : ∀ rest, Nat.toDigits 10 n = '+' :: rest → False := fun rest heq =>
    hplus (heq ▸ List.mem_cons_self ..)
  rw [readCount?]
  · simp [hne, hvalue, h]
  · exact hdigits

/-! ### Words -/

theorem not_isBlank_of_isDigit {c : Char} (h : c.isDigit) : isBlank c = false := by
  have h' : 48 ≤ c.toNat ∧ c.toNat ≤ 57 := by
    simp only [Char.isDigit, Bool.and_eq_true, decide_eq_true_eq, ge_iff_le] at h
    exact ⟨by simpa using UInt32.le_iff_toNat_le.1 h.1, by simpa using UInt32.le_iff_toNat_le.1 h.2⟩
  simp only [isBlank]
  grind

theorem wordsFrom_append {w : List Char} (hw : ∀ c ∈ w, isBlank c = false) (run t : List Char) :
    wordsFrom run (w ++ t) = wordsFrom (run ++ w) t := by
  induction w generalizing run with
  | nil => simp
  | cons c w ih =>
    rw [List.cons_append, wordsFrom, if_neg (by simp [hw c (by simp)]),
      ih (fun d hd => hw d (by simp [hd])), List.append_assoc]
    rfl

theorem words_append_blank {w : List Char} (hw : ∀ c ∈ w, isBlank c = false) (hne : w ≠ [])
    {b : Char} (hb : isBlank b = true) (t : List Char) : words (w ++ b :: t) = w :: words t := by
  rw [words, wordsFrom_append hw, List.nil_append, wordsFrom, if_pos hb, if_neg (by simpa using hne)]
  rfl

end Guideline.Text
