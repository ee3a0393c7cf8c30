import Mathlib.Data.List.Basic
import Mathlib.Data.List.Infix
import Mathlib.Data.List.Nodup
import Mathlib.Data.List.Perm.Basic

/-!
# Elements that are picked out of lists

What leaving elements out, contributing to a joined list and having a key of its own mean for the elements of
a list.
-/

namespace Guideline.Collection

/-! ### Elements with a property -/

/-- Leaving elements out keeps a beginning, if the same are left out of it. -/
theorem isPrefix_filter {α : Type} {p q : α → Bool} {l l' : List α} (h : l <+: l')
    (hpq : ∀ a ∈ l, p a = q a) : l.filter p <+: l'.filter q := by
  rw [List.filter_congr hpq]
  exact h.filter q

theorem flatMap_filter {α β : Type} (p : α → Bool) (f : α → List β) (l : List α) :
    (l.filter p).flatMap f = l.flatMap fun a => if p a then f a else [] := by
  induction l with
  | nil => rfl
  | cons a l ih =>
    rw [List.filter_cons, List.flatMap_cons, ← ih]
    split_ifs <;> rfl

/-- Of the elements with a property there is a last one. -/
theorem exists_last {α : Type} {p : α → Prop} {l : List α} (h : ∃ a ∈ l, p a) :
    ∃ before a after, l = before ++ a :: after ∧ p a ∧ ∀ b ∈ after, ¬ p b := by
  induction l with
  | nil => simp at h
  | cons x l ih =>
    by_cases hl : ∃ a ∈ l, p a
    · obtain ⟨before, a, after, rfl, ha⟩ := ih hl
      exact ⟨x :: before, a, after, rfl, ha⟩
    · have hx : p x := by simpa [hl] using h
      exact ⟨[], x, l, rfl, hx, fun b hb hp => hl ⟨b, hb, hp⟩⟩

/-! ### Elements that contribute -/

/-- Where at most one element contributes, the order of elements does not matter. -/
theorem flatMap_eq_of_perm {α β : Type} {f : α → List β} {l l' : List α} (h : l.Perm l')
    (hf : l.Pairwise fun a b => f a = [] ∨ f b = []) : l.flatMap f = l'.flatMap f := by
  induction h with
  | nil => rfl
  | cons a _ ih => rw [List.flatMap_cons, List.flatMap_cons, ih hf.of_cons]
  | swap a b l =>
    have hab := (List.pairwise_cons.1 hf).1 a (by simp)
    rcases hab with h | h <;> simp [h]
  | trans h₁ _ ih₁ ih₂ =>
    rw [ih₁ hf, ih₂ ((h₁.pairwise_iff fun h => h.symm).1 hf)]

/-! ### Elements with keys -/

/-- Among elements with different keys there is one with a given key at most. -/
theorem find?_key_eq_some_iff {α κ : Type} [DecidableEq κ] {key : α → κ} {l : List α}
    (h : (l.map key).Nodup) {k : κ} {a : α} :
    l.find? (fun b => key b = k) = some a ↔ a ∈ l ∧ key a = k := by
  induction l with
  | nil => simp
  | cons b l ih =>
    obtain ⟨hb, hl⟩ := List.nodup_cons.1 h
    by_cases hk : key b = k
    · rw [List.find?_cons_of_pos (by simpa using hk), Option.some.injEq, List.mem_cons]
      refine ⟨fun hba => ⟨.inl hba.symm, hba ▸ hk⟩, fun ⟨hmem, hak⟩ => ?_⟩
      rcases hmem with rfl | hmem
      · rfl
      · exact absurd (List.mem_map.2 ⟨a, hmem, hak.trans hk.symm⟩) hb
    · rw [List.find?_cons_of_neg (by simpa using hk), ih hl, List.mem_cons]
      refine ⟨fun ⟨hmem, hak⟩ => ⟨.inr hmem, hak⟩, fun ⟨hmem, hak⟩ => ⟨?_, hak⟩⟩
      rcases hmem with rfl | hmem
      · exact absurd hak hk
      · exact hmem

/-- Of entries with different keys those with one key are one entry. -/
theorem flatMap_key_eq {κ α : Type} [DecidableEq κ] {l : List (κ × List α)}
    (hl : (l.map Prod.fst).Nodup) {e : κ × List α} (he : e ∈ l) :
    l.flatMap (fun e' => if e'.1 = e.1 then e'.2 else []) = e.2 := by
  obtain ⟨before, after, rfl⟩ := List.append_of_mem he
  rw [List.map_append, List.map_cons, List.nodup_append, List.nodup_cons] at hl
  obtain ⟨-, ⟨hafter, -⟩, hbefore⟩ := hl
  have hnil : ∀ m : List (κ × List α), e.1 ∉ m.map Prod.fst →
      m.flatMap (fun e' => if e'.1 = e.1 then e'.2 else []) = [] := by
    intro m hm
    refine List.flatMap_eq_nil_iff.2 fun e' he' => if_neg fun heq => hm ?_
    exact heq ▸ List.mem_map_of_mem he'
  rw [List.flatMap_append, List.flatMap_cons, if_pos rfl, hnil after hafter,
    hnil before fun h => hbefore _ h _ List.mem_cons_self rfl, List.nil_append, List.append_nil]

end Guideline.Collection
