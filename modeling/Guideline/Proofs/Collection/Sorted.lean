import Guideline.Collection.Sorted
import Mathlib.Data.List.Basic
import Mathlib.Data.List.Induction
import Mathlib.Data.List.Nodup

/-!
# Updates of sorted maps and sets

`alter` under a lawful comparison: updates at different keys commute, and two updates at one key are
one. `unionSets` adds the entries of a map from keys to sets of numbers to another one; an update of
the map that is added is an update of the union (`unionSets_alter`).
-/

namespace Guideline.Collection

/-! ### Sets of numbers -/

theorem mem_insertNat {n m : Nat} {s : List Nat} : m ∈ insertNat n s ↔ m = n ∨ m ∈ s := by
  induction s with
  | nil => simp [insertNat]
  | cons k rest ih =>
    rw [insertNat]
    split_ifs with h₁ h₂
    · simp
    · subst h₂; simp
    · simp only [List.mem_cons, ih]
      exact or_left_comm

theorem pairwise_insertNat {s : List Nat} (h : s.Pairwise (· < ·)) (n : Nat) :
    (insertNat n s).Pairwise (· < ·) := by
  induction s with
  | nil => exact List.pairwise_singleton ..
  | cons k rest ih =>
    obtain ⟨hk, hrest⟩ := List.pairwise_cons.1 h
    rw [insertNat]
    split_ifs with h₁ h₂
    · refine List.pairwise_cons.2 ⟨fun m hm => ?_, h⟩
      rcases List.mem_cons.1 hm with rfl | hm
      · exact h₁
      · exact Nat.lt_trans h₁ (hk m hm)
    · exact h
    · refine List.pairwise_cons.2 ⟨fun m hm => ?_, ih hrest⟩
      rcases mem_insertNat.1 hm with rfl | hm
      · omega
      · exact hk m hm

theorem insertNat_comm (a b : Nat) (s : List Nat) :
    insertNat a (insertNat b s) = insertNat b (insertNat a s) := by
  induction s with
  | nil => simp only [insertNat]; split_ifs <;> first | rfl | omega | (subst_vars; rfl)
  | cons k rest ih => simp only [insertNat]; split_ifs <;> grind [insertNat]

theorem insertNat_insertNat (a : Nat) (s : List Nat) :
    insertNat a (insertNat a s) = insertNat a s := by
  induction s with
  | nil => simp [insertNat]
  | cons k rest ih => simp only [insertNat]; split_ifs <;> grind [insertNat]

/-- The numbers of both sets. -/
def unionNat (s t : List Nat) : List Nat :=
  t.foldl (fun s n => insertNat n s) s

theorem unionNat_cons (s : List Nat) (n : Nat) (t : List Nat) :
    unionNat s (n :: t) = unionNat (insertNat n s) t := rfl

theorem mem_unionNat {n : Nat} {s t : List Nat} : n ∈ unionNat s t ↔ n ∈ s ∨ n ∈ t := by
  induction t generalizing s with
  | nil => simp [unionNat]
  | cons m rest ih =>
    rw [unionNat_cons, ih, mem_insertNat, List.mem_cons, or_assoc]
    exact or_left_comm

theorem pairwise_unionNat {s : List Nat} (h : s.Pairwise (· < ·)) (t : List Nat) :
    (unionNat s t).Pairwise (· < ·) := by
  induction t generalizing s with
  | nil => exact h
  | cons n t ih => exact ih (pairwise_insertNat h n)

theorem unionNat_insertNat_left (n : Nat) (s t : List Nat) :
    unionNat (insertNat n s) t = insertNat n (unionNat s t) := by
  induction t generalizing s with
  | nil => rfl
  | cons m rest ih => rw [unionNat_cons, unionNat_cons, insertNat_comm, ih]

theorem unionNat_insertNat_right (n : Nat) (s t : List Nat) :
    unionNat s (insertNat n t) = insertNat n (unionNat s t) := by
  induction t generalizing s with
  | nil => rfl
  | cons m rest ih =>
    rw [insertNat]
    split_ifs with h₁ h₂
    · rw [unionNat_cons, unionNat_insertNat_left]
    · subst h₂
      rw [unionNat_cons, unionNat_insertNat_left, insertNat_insertNat]
    · rw [unionNat_cons, ih, unionNat_cons]

/-! ### Maps -/

variable {κ α : Type} {cmp : κ → κ → Ordering} {a b : κ}

/-- The keys of a map are in order, and no two are equal. -/
def IsSorted (cmp : κ → κ → Ordering) (m : List (κ × α)) : Prop :=
  m.Pairwise fun e e' => cmp e.1 e'.1 = .lt

theorem key_of_mem_alter {f : Option α → α} {m : List (κ × α)} {e : κ × α}
    (he : e ∈ alter cmp a f m) : e.1 = a ∨ ∃ e' ∈ m, e.1 = e'.1 := by
  induction m with
  | nil =>
    rw [alter, List.mem_singleton] at he
    exact .inl (by rw [he])
  | cons e₀ rest ih =>
    obtain ⟨k, x⟩ := e₀
    rw [alter] at he
    split at he
    · rcases List.mem_cons.1 he with rfl | he
      · exact .inl rfl
      · exact .inr ⟨e, he, rfl⟩
    · rcases List.mem_cons.1 he with rfl | he
      · exact .inr ⟨(k, x), List.mem_cons_self .., rfl⟩
      · exact .inr ⟨e, List.mem_cons_of_mem _ he, rfl⟩
    · rcases List.mem_cons.1 he with rfl | he
      · exact .inr ⟨(k, x), List.mem_cons_self .., rfl⟩
      · rcases ih he with h | ⟨e', he', h⟩
        · exact .inl h
        · exact .inr ⟨e', List.mem_cons_of_mem _ he', h⟩

theorem mem_of_mem_put [Std.LawfulEqCmp cmp] {x : α} {m : List (κ × α)} {e : κ × α}
    (he : e ∈ put cmp a x m) : e = (a, x) ∨ e ∈ m := by
  induction m with
  | nil => exact .inl (List.mem_singleton.1 he)
  | cons e₀ rest ih =>
    rw [put, alter] at he
    split at he
    · exact List.mem_cons.1 he
    · rename_i heq
      rcases List.mem_cons.1 he with rfl | he
      · exact .inl (by rw [Std.LawfulEqCmp.eq_of_compare heq])
      · exact .inr (List.mem_cons_of_mem _ he)
    · rcases List.mem_cons.1 he with rfl | he
      · exact .inr (List.mem_cons_self ..)
      · rcases ih he with h | h
        · exact .inl h
        · exact .inr (List.mem_cons_of_mem _ h)

theorem mem_of_mem_ofEntries [Std.LawfulEqCmp cmp] {entries : List (κ × α)} {e : κ × α}
    (he : e ∈ ofEntries cmp entries) : e ∈ entries := by
  suffices hfold : ∀ m : List (κ × α), e ∈ entries.foldl (fun m e => put cmp e.1 e.2 m) m →
      e ∈ m ∨ e ∈ entries by
    rcases hfold [] he with h | h
    · cases h
    · exact h
  clear he
  induction entries with
  | nil => exact fun m h => .inl h
  | cons e₀ entries ih =>
    intro m h
    rcases ih _ h with h | h
    · rcases mem_of_mem_put h with rfl | h
      · exact .inr (List.mem_cons_self ..)
      · exact .inl h
    · exact .inr (List.mem_cons_of_mem _ h)

/-- Altering at a new key adds an entry. -/
theorem alter_perm {f : Option α → α} {m : List (κ × α)} (h : ∀ e ∈ m, cmp a e.1 ≠ .eq) :
    (alter cmp a f m).Perm ((a, f none) :: m) := by
  induction m with
  | nil => exact .refl _
  | cons e m ih =>
    rw [alter]
    split
    · exact .refl _
    · rename_i heq
      exact absurd heq (h e (by simp))
    · exact ((ih fun e' he' => h e' (by simp [he'])).cons _).trans (.swap _ _ _)

theorem foldl_put_perm [Std.LawfulEqCmp cmp] {m entries : List (κ × α)}
    (h : ((m ++ entries).map Prod.fst).Nodup) :
    (entries.foldl (fun m e => put cmp e.1 e.2 m) m).Perm (m ++ entries) := by
  induction entries generalizing m with
  | nil => rw [List.append_nil]; exact .refl m
  | cons e entries ih =>
    have hnew : ∀ e' ∈ m, cmp e.1 e'.1 ≠ .eq := by
      intro e' he' heq
      rw [List.map_append, List.nodup_append] at h
      exact h.2.2 e'.1 (List.mem_map_of_mem he') e.1 (by simp) (Std.LawfulEqCmp.eq_of_compare heq).symm
    have hput : (put cmp e.1 e.2 m ++ entries).Perm (m ++ e :: entries) :=
      ((alter_perm hnew).append_right entries).trans List.perm_middle.symm
    exact (ih ((hput.map Prod.fst).nodup_iff.2 h)).trans hput

/-- A map of entries with different keys has these entries. -/
theorem ofEntries_perm [Std.LawfulEqCmp cmp] {entries : List (κ × α)}
    (h : (entries.map Prod.fst).Nodup) : (ofEntries cmp entries).Perm entries :=
  foldl_put_perm h

section Lookup

variable [DecidableEq κ]

theorem find?_cons (e : κ × α) (m : List (κ × α)) :
    find? a (e :: m) = if e.1 = a then some e.2 else find? a m := by
  by_cases h : e.1 = a <;> simp [find?, h]

theorem find?_put [Std.LawfulEqCmp cmp] (x : α) (m : List (κ × α)) :
    find? b (put cmp a x m) = if a = b then some x else find? b m := by
  induction m with
  | nil => exact find?_cons (a, x) []
  | cons e m ih =>
    rw [put, alter]
    split
    · exact find?_cons (a, x) (e :: m)
    · rename_i heq
      obtain rfl := Std.LawfulEqCmp.eq_of_compare heq
      rw [find?_cons, find?_cons]
      split_ifs <;> rfl
    · rename_i hgt
      have hne : a ≠ e.1 := by
        rintro rfl
        have hself : cmp e.1 e.1 = .eq := Std.ReflCmp.compare_self
        rw [hself] at hgt
        cases hgt
      have hrest : find? b (alter cmp a (fun _ => x) m) = if a = b then some x else find? b m := ih
      rw [find?_cons, find?_cons, hrest]
      split_ifs with h h' <;> simp_all

/-- Of entries with one key the last counts. -/
theorem find?_ofEntries [Std.LawfulEqCmp cmp] (entries : List (κ × α)) :
    find? a (ofEntries cmp entries) = find? a entries.reverse := by
  induction entries using List.reverseRecOn with
  | nil => rfl
  | append_singleton entries e ih =>
    have hput : ofEntries cmp (entries ++ [e]) = put cmp e.1 e.2 (ofEntries cmp entries) := by
      rw [ofEntries, List.foldl_append]
      rfl
    rw [hput, find?_put, ih, List.reverse_append, List.reverse_singleton, List.singleton_append, find?_cons]

theorem find?_ofEntries_eq_some_iff [Std.LawfulEqCmp cmp] {entries : List (κ × α)} {x : α} :
    find? a (ofEntries cmp entries) = some x ↔
      ∃ before after, entries = before ++ (a, x) :: after ∧ ∀ e ∈ after, e.1 ≠ a := by
  rw [find?_ofEntries, find?, Option.map_eq_some_iff]
  constructor
  · rintro ⟨e, he, rfl⟩
    obtain ⟨hkey, after, before, heq, hafter⟩ := List.find?_eq_some_iff_append.1 he
    obtain rfl := of_decide_eq_true hkey
    refine ⟨before.reverse, after.reverse, ?_, fun e' he' => ?_⟩
    · rw [← List.reverse_reverse entries, heq]
      simp
    · simpa using hafter e' (List.mem_reverse.1 he')
  · rintro ⟨before, after, rfl, hafter⟩
    refine ⟨(a, x), List.find?_eq_some_iff_append.2 ?_, rfl⟩
    refine ⟨by simp, after.reverse, before.reverse, by simp, fun e he => ?_⟩
    simpa using hafter e (List.mem_reverse.1 he)

end Lookup

/-- The entries of `m` and those of `m'`; a key of both has the numbers of both. -/
def unionSets (cmp : κ → κ → Ordering) (m m' : List (κ × List Nat)) : List (κ × List Nat) :=
  m'.foldl (fun m e => alter cmp e.1 (fun o => unionNat (o.getD []) e.2) m) m

theorem unionSets_cons (m : List (κ × List Nat)) (e : κ × List Nat) (m' : List (κ × List Nat)) :
    unionSets cmp m (e :: m') =
      unionSets cmp (alter cmp e.1 (fun o => unionNat (o.getD []) e.2) m) m' := rfl

/-- The map has the number `n` at the key `a`. -/
def HasNumber (cmp : κ → κ → Ordering) (m : List (κ × List Nat)) (a : κ) (n : Nat) : Prop :=
  ∃ e ∈ m, cmp e.1 a = .eq ∧ n ∈ e.2

theorem hasNumber_cons {m : List (κ × List Nat)} {e : κ × List Nat} {n : Nat} :
    HasNumber cmp (e :: m) a n ↔ (cmp e.1 a = .eq ∧ n ∈ e.2) ∨ HasNumber cmp m a n := by
  simp [HasNumber]

variable [Std.TransCmp cmp]

theorem alter_comm (h : cmp a b ≠ .eq) (f g : Option α → α) (m : List (κ × α)) :
    alter cmp a f (alter cmp b g m) = alter cmp b g (alter cmp a f m) := by
  have hab : cmp b a = (cmp a b).swap := Std.OrientedCmp.eq_swap
  induction m with
  | nil => cases hc : cmp a b <;> simp_all [alter]
  | cons e rest ih =>
    obtain ⟨k, x⟩ := e
    cases ha : cmp a k <;> cases hb : cmp b k
    case lt.lt | gt.gt => cases hc : cmp a b <;> simp_all [alter]
    case eq.eq => exact absurd (Std.TransCmp.eq_trans ha (Std.OrientedCmp.eq_symm hb)) h
    case lt.eq =>
      have hc : cmp a b = .lt := Std.TransCmp.lt_of_lt_of_eq ha (Std.OrientedCmp.eq_symm hb)
      simp_all [alter]
    case lt.gt =>
      have hc : cmp a b = .lt := Std.TransCmp.lt_trans ha (Std.OrientedCmp.lt_of_gt hb)
      simp_all [alter]
    case eq.lt =>
      have hc : cmp a b = .gt :=
        Std.OrientedCmp.gt_of_lt (Std.TransCmp.lt_of_lt_of_eq hb (Std.OrientedCmp.eq_symm ha))
      simp_all [alter]
    case gt.lt =>
      have hc : cmp a b = .gt :=
        Std.OrientedCmp.gt_of_lt (Std.TransCmp.lt_trans hb (Std.OrientedCmp.lt_of_gt ha))
      simp_all [alter]
    case eq.gt | gt.eq => simp_all [alter]

theorem alter_alter (h : cmp a b = .eq) (f g : Option α → α) (m : List (κ × α)) :
    alter cmp a f (alter cmp b g m) = alter cmp b (fun o => f (some (g o))) m := by
  induction m with
  | nil => simp [alter, h]
  | cons e rest ih =>
    obtain ⟨k, x⟩ := e
    have hk : cmp a k = cmp b k := Std.TransCmp.congr_left h
    cases hb : cmp b k <;> simp [alter, hk, hb, h, ih]

theorem IsSorted.alter {f : Option α → α} {m : List (κ × α)} (h : IsSorted cmp m) :
    IsSorted cmp (alter cmp a f m) := by
  induction m with
  | nil => exact List.pairwise_singleton ..
  | cons e rest ih =>
    obtain ⟨k, x⟩ := e
    obtain ⟨hk, hrest⟩ := List.pairwise_cons.1 h
    rw [Collection.alter]
    split
    · rename_i hlt
      refine List.pairwise_cons.2 ⟨fun e he => ?_, h⟩
      rcases List.mem_cons.1 he with rfl | he
      · exact hlt
      · exact Std.TransCmp.lt_trans hlt (hk e he)
    · exact List.pairwise_cons.2 ⟨hk, hrest⟩
    · rename_i hgt
      refine List.pairwise_cons.2 ⟨fun e he => ?_, ih hrest⟩
      rcases key_of_mem_alter he with h | ⟨e', he', h⟩
      · rw [h]; exact Std.OrientedCmp.lt_of_gt hgt
      · rw [h]; exact hk e' he'

theorem isSorted_foldl_put {m : List (κ × α)} (hm : IsSorted cmp m) (entries : List (κ × α)) :
    IsSorted cmp (entries.foldl (fun m e => put cmp e.1 e.2 m) m) := by
  induction entries generalizing m with
  | nil => exact hm
  | cons e entries ih => exact ih hm.alter

theorem isSorted_ofEntries (entries : List (κ × α)) : IsSorted cmp (ofEntries cmp entries) :=
  isSorted_foldl_put List.Pairwise.nil entries

/-- The map has a key equal to `a`. -/
def HasKey (cmp : κ → κ → Ordering) (m : List (κ × α)) (a : κ) : Prop :=
  ∃ e ∈ m, cmp e.1 a = .eq

theorem hasKey_alter {f : Option α → α} {m : List (κ × α)} :
    HasKey cmp (alter cmp a f m) b ↔ HasKey cmp m b ∨ cmp a b = .eq := by
  simp only [HasKey]
  induction m with
  | nil => simp [alter]
  | cons e rest ih =>
    obtain ⟨k, x⟩ := e
    rw [alter]
    split
    · simp [or_comm]
    · rename_i heq
      have hk : cmp a b = cmp k b := Std.TransCmp.congr_left heq
      simp only [List.exists_mem_cons_iff, hk]
      exact ⟨.inl, fun h => h.elim id .inl⟩
    · simp only [List.exists_mem_cons_iff, ih, or_assoc]

/-! ### Maps to sets of numbers -/

theorem unionSets_alter_left {f : Option (List Nat) → List Nat} {m m' : List (κ × List Nat)}
    (h : ∀ e ∈ m', cmp e.1 a ≠ .eq) :
    unionSets cmp (alter cmp a f m) m' = alter cmp a f (unionSets cmp m m') := by
  induction m' generalizing m with
  | nil => rfl
  | cons e rest ih =>
    rw [unionSets_cons, unionSets_cons, alter_comm (h e (List.mem_cons_self ..))]
    exact ih fun e' he' => h e' (List.mem_cons_of_mem _ he')

/-- An update of the map that is added, of a kind that acts on unions too, is the same update of the
union. -/
theorem unionSets_alter {g : List Nat → List Nat} {m m' : List (κ × List Nat)}
    (hg : ∀ s t, unionNat s (g t) = g (unionNat s t)) (h : IsSorted cmp m') :
    unionSets cmp m (alter cmp a (fun o => g (o.getD [])) m') =
      alter cmp a (fun o => g (o.getD [])) (unionSets cmp m m') := by
  induction m' generalizing m with
  | nil =>
    rw [alter, unionSets_cons]
    simp only [Option.getD_none, hg]
    rfl
  | cons e rest ih =>
    obtain ⟨k, s⟩ := e
    obtain ⟨hk, hrest⟩ := List.pairwise_cons.1 h
    rw [alter]
    split
    · rename_i hlt
      -- every key of `m'` is greater, so the new entry can be added last
      have hne : ∀ e ∈ (k, s) :: rest, cmp e.1 a ≠ .eq := by
        intro e he heq
        have hlt' : cmp a e.1 = .lt := by
          rcases List.mem_cons.1 he with rfl | he
          · exact hlt
          · exact Std.TransCmp.lt_trans hlt (hk e he)
        rw [Std.OrientedCmp.eq_symm heq] at hlt'
        cases hlt'
      rw [unionSets_cons, unionSets_alter_left hne]
      simp only [Option.getD_none, hg]
      rfl
    · rename_i heq
      have hne : ∀ e ∈ rest, cmp e.1 a ≠ .eq := by
        intro e he heq'
        have hlt : cmp a e.1 = .lt := Std.TransCmp.lt_of_eq_of_lt heq (hk e he)
        rw [Std.OrientedCmp.eq_symm heq'] at hlt
        cases hlt
      rw [unionSets_cons, unionSets_cons, ← unionSets_alter_left hne, alter_alter heq]
      simp only [Option.getD_some, hg]
    · rw [unionSets_cons, unionSets_cons, ih hrest]

theorem hasNumber_alter {g : List Nat → List Nat} {q : Nat → Prop}
    (hg : ∀ s n, n ∈ g s ↔ n ∈ s ∨ q n) {m : List (κ × List Nat)} {n : Nat} :
    HasNumber cmp (alter cmp a (fun o => g (o.getD [])) m) b n ↔
      HasNumber cmp m b n ∨ (cmp a b = .eq ∧ q n) := by
  induction m with
  | nil => simp [alter, HasNumber, hg]
  | cons e rest ih =>
    obtain ⟨k, s⟩ := e
    rw [alter]
    split
    · rw [hasNumber_cons, hg]
      simp only [Option.getD_none, List.not_mem_nil, false_or]
      exact or_comm
    · rename_i heq
      have hk : cmp a b = cmp k b := Std.TransCmp.congr_left heq
      rw [hasNumber_cons, hasNumber_cons, Option.getD_some, hg, hk]
      tauto
    · rw [hasNumber_cons, hasNumber_cons, ih, or_assoc]

theorem hasNumber_unionSets {m m' : List (κ × List Nat)} {n : Nat} :
    HasNumber cmp (unionSets cmp m m') a n ↔ HasNumber cmp m a n ∨ HasNumber cmp m' a n := by
  induction m' generalizing m with
  | nil => simp [unionSets, HasNumber]
  | cons e rest ih =>
    rw [unionSets_cons, ih, hasNumber_cons, or_assoc.symm]
    rw [hasNumber_alter (g := fun s => unionNat s e.2) (q := fun n => n ∈ e.2) fun s n => mem_unionNat]

end Guideline.Collection
