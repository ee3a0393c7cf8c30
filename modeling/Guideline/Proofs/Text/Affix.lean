import Guideline.Text.Affix
import Mathlib.Data.List.Induction

/-!
# Beginnings, endings and occurrences

The tests on beginnings and endings of texts in terms of `<+:` and `++`, those on occurrences in
terms of `<:+:`, and what replacing leaves alone.
-/

namespace Guideline.Text

theorem after?_eq_some_iff {pre cs rest : List Char} :
    after? pre cs = some rest ↔ cs = pre ++ rest := by
  induction pre generalizing cs with
  | nil => simp [after?, eq_comm]
  | cons p pre ih =>
    cases cs with
    | nil => simp [after?]
    | cons c cs =>
      rw [after?]
      split_ifs with h
      · rw [ih, h]; simp
      · simp [Ne.symm h]

theorem after?_append (pre rest : List Char) : after? pre (pre ++ rest) = some rest :=
  after?_eq_some_iff.2 rfl

theorem after?_eq_none_iff {pre cs : List Char} : after? pre cs = none ↔ ¬ pre <+: cs := by
  rw [Option.eq_none_iff_forall_not_mem]
  exact ⟨fun h ⟨t, ht⟩ => h t (after?_eq_some_iff.2 ht.symm),
    fun h t ht => h ⟨t, (after?_eq_some_iff.1 ht).symm⟩⟩

theorem startsWith_iff {pre cs : List Char} : startsWith pre cs = true ↔ pre <+: cs := by
  rw [startsWith, Option.isSome_iff_ne_none, Ne, after?_eq_none_iff, not_not]

theorem endsWithChar_append {c : Char} {a : List Char} (ha : a.getLast? ≠ some c) (b : List Char) :
    endsWithChar c (a ++ b) = endsWithChar c b := by
  cases b using List.reverseRecOn with
  | nil => simpa [endsWithChar] using ha
  | append_singleton b d => simp [endsWithChar, ← List.append_assoc]

/-- A beginning of a text that a character cuts, without that character, is a beginning of what is
before it. -/
theorem isPrefix_of_isPrefix_append_cons {p a b : List Char} {c : Char} (h : p <+: a ++ c :: b)
    (hc : c ∉ p) : p <+: a := by
  rcases List.prefix_or_prefix_of_prefix h (List.prefix_append a (c :: b)) with hp | ⟨q, rfl⟩
  · exact hp
  · cases q with
    | nil => simp
    | cons d q =>
      have hd : d = c := by
        have := (List.prefix_append_right_inj a).1 h
        exact (List.cons_prefix_cons.1 this).1
      exact absurd (by simp [hd]) hc

/-! ### Occurrences -/

theorem occurs_iff {sub cs : List Char} : occurs sub cs = true ↔ sub <:+: cs := by
  induction cs with
  | nil => simp [occurs]
  | cons c cs ih => rw [occurs, Bool.or_eq_true, startsWith_iff, ih, List.infix_cons_iff]

theorem replaceAll_cons {old : List Char} (new : List Char) {c : Char} {cs : List Char}
    (h : ¬ old <+: c :: cs) : replaceAll old new (c :: cs) = c :: replaceAll old new cs := by
  have hstart : startsWith old (c :: cs) = false := by
    rw [← Bool.not_eq_true, startsWith_iff]
    exact h
  rw [replaceAll, replaceFrom, hstart]
  rfl

/-- Where nothing to be replaced starts within `a`, replacing leaves `a` alone. -/
theorem replaceAll_append {old : List Char} (new : List Char) {a b : List Char}
    (h : ∀ s t, a = s ++ t → t ≠ [] → ¬ old <+: t ++ b) :
    replaceAll old new (a ++ b) = a ++ replaceAll old new b := by
  induction a with
  | nil => rfl
  | cons c a ih =>
    have hfirst : ¬ old <+: c :: (a ++ b) := h [] (c :: a) rfl (by simp)
    have hrest := ih fun s t hst => h (c :: s) t (by rw [hst]; rfl)
    rw [List.cons_append, replaceAll_cons new hfirst, hrest]
    rfl

theorem replaceAll_of_not_infix {old : List Char} (new : List Char) {cs : List Char}
    (h : ¬ old <:+: cs) : replaceAll old new cs = cs := by
  have happend : replaceAll old new (cs ++ []) = cs ++ replaceAll old new [] :=
    replaceAll_append new fun s t hst _ hpre => by
      rw [List.append_nil] at hpre
      exact h (hst ▸ hpre.isInfix.trans (List.suffix_append s t).isInfix)
  rw [List.append_nil] at happend
  exact happend.trans (List.append_nil cs)

theorem mem_of_mem_replaceFrom {old new : List Char} {c : Char} {skip : Nat} {cs : List Char}
    (h : c ∈ replaceFrom old new skip cs) : c ∈ new ∨ c ∈ cs := by
  fun_induction replaceFrom old new skip cs with
  | case1 => exact .inr h
  | case2 skip d cs ih => exact (ih h).imp_right (List.mem_cons_of_mem d)
  | case3 d cs _ ih =>
    rcases List.mem_append.1 h with h | h
    · exact .inl h
    · exact (ih h).imp_right (List.mem_cons_of_mem d)
  | case4 d cs _ ih =>
    rcases List.mem_cons.1 h with rfl | h
    · exact .inr (List.mem_cons_self ..)
    · exact (ih h).imp_right (List.mem_cons_of_mem d)

end Guideline.Text
