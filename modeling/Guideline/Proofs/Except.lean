import Mathlib.Data.List.Basic

/-!
# Computations that may fail

When a sequence of computations succeeds, and what of.
-/

namespace Guideline

theorem bind_eq_ok_iff {ε α β : Type} {x : Except ε α} {f : α → Except ε β} {b : β} :
    x >>= f = .ok b ↔ ∃ a, x = .ok a ∧ f a = .ok b := by
  cases x <;> simp [bind, Except.bind]

theorem mapError_eq_ok_iff {ε ε' α : Type} {x : Except ε α} {f : ε → ε'} {a : α} :
    x.mapError f = .ok a ↔ x = .ok a := by
  cases x <;> simp [Except.mapError]

theorem mapM_eq_ok_iff {ε α β : Type} {f : α → Except ε β} {l : List α} {bs : List β} :
    l.mapM f = .ok bs ↔ l.map f = bs.map .ok := by
  induction l generalizing bs with
  | nil => cases bs <;> simp [pure, Except.pure]
  | cons a l ih =>
    rw [List.mapM_cons, List.map_cons]
    cases f a with
    | error e => cases bs <;> simp [bind, Except.bind]
    | ok b =>
      cases bs with
      | nil => cases l.mapM f <;> simp [bind, Except.bind, pure, Except.pure]
      | cons b' bs =>
        rw [List.map_cons, List.cons.injEq, ← ih]
        cases l.mapM f <;> simp [bind, Except.bind, pure, Except.pure]

theorem mem_iff_of_mapM_eq_ok {ε α β : Type} {f : α → Except ε β} {l : List α} {bs : List β}
    (h : l.mapM f = .ok bs) {b : β} : b ∈ bs ↔ ∃ a ∈ l, f a = .ok b := by
  have hmem : Except.ok b ∈ l.map f ↔ ∃ a ∈ l, f a = .ok b := List.mem_map
  rw [← hmem, mapM_eq_ok_iff.1 h]
  simp

theorem map_eq_of_mapM_eq_ok {ε α β κ : Type} {f : α → Except ε β} {key : α → κ} {key' : β → κ}
    (hkey : ∀ a b, f a = .ok b → key' b = key a) {l : List α} {bs : List β} (h : l.mapM f = .ok bs) :
    bs.map key' = l.map key := by
  rw [mapM_eq_ok_iff] at h
  induction l generalizing bs with
  | nil => simp_all
  | cons a l ih =>
    cases bs with
    | nil => simp at h
    | cons b bs =>
      obtain ⟨hb, hbs⟩ := List.cons.inj h
      rw [List.map_cons, List.map_cons, hkey a b hb, ih hbs]

theorem exists_mapM_eq_ok_iff {ε α β : Type} {f : α → Except ε β} {l : List α} :
    (∃ bs, l.mapM f = .ok bs) ↔ ∀ a ∈ l, ∃ b, f a = .ok b := by
  simp only [mapM_eq_ok_iff]
  induction l with
  | nil => simp
  | cons a l ih =>
    rw [List.forall_mem_cons, ← ih]
    constructor
    · rintro ⟨bs, h⟩
      cases bs with
      | nil => simp at h
      | cons b bs =>
        obtain ⟨hb, hbs⟩ := List.cons.inj h
        exact ⟨⟨b, hb⟩, bs, hbs⟩
    · rintro ⟨⟨b, hb⟩, bs, hbs⟩
      exact ⟨b :: bs, by rw [List.map_cons, List.map_cons, hb, hbs]⟩

theorem mapM_insert_eq_ok {ε α β : Type} {f : α → Except ε β} {before after : List α} {a : α} {b : β}
    {bs : List β} (h : (before ++ after).mapM f = .ok bs) (ha : f a = .ok b) :
    ∃ bs₁ bs₂, bs = bs₁ ++ bs₂ ∧ (before ++ a :: after).mapM f = .ok (bs₁ ++ b :: bs₂) := by
  rw [mapM_eq_ok_iff, List.map_append, eq_comm, List.map_eq_append_iff] at h
  obtain ⟨bs₁, bs₂, rfl, h₁, h₂⟩ := h
  exact ⟨bs₁, bs₂, rfl, mapM_eq_ok_iff.2 (by simp [h₁, h₂, ha])⟩

end Guideline
