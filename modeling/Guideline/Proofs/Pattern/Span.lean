import Guideline.Pattern.Regex
import Mathlib.Data.List.Basic

/-!
# What expressions span

`Regex.run` computes with sets of places. `Regex.Spans` says the same of single matches: from which
place to which other place an expression leads. Each rule gives it for one way of building
expressions, so that what a whole expression matches is put together from its parts
(`Spans.isMatch_iff`).
-/

namespace Guideline.Pattern

/-! ### Sets of places -/

namespace Places

/-- The place `i` belongs to the set. -/
def Has (s : Places) (i : Nat) : Prop :=
  s[i]? = some true

theorem length_union (s t : Places) : (s.union t).length = min s.length t.length :=
  List.length_zipWith

theorem has_union {s t : Places} (hlen : s.length = t.length) {i : Nat} :
    (s.union t).Has i ↔ s.Has i ∨ t.Has i := by
  unfold Has union
  rw [List.getElem?_zipWith]
  by_cases hi : i < s.length
  · have ht : i < t.length := hlen ▸ hi
    simp [List.getElem?_eq_getElem hi, List.getElem?_eq_getElem ht]
  · have hs : s[i]? = none := List.getElem?_eq_none (Nat.le_of_not_lt hi)
    have ht : t[i]? = none := List.getElem?_eq_none (by omega)
    simp [hs, ht]

theorem isEmpty_eq_false_iff {s : Places} : s.isEmpty = false ↔ ∃ i, s.Has i := by
  unfold isEmpty Has
  rw [Bool.not_eq_false', List.any_eq_true]
  constructor
  · rintro ⟨b, hb, htrue⟩
    obtain ⟨i, hi⟩ := List.mem_iff_getElem?.1 hb
    exact ⟨i, hi.trans (congrArg some htrue)⟩
  · rintro ⟨i, hi⟩
    exact ⟨true, List.mem_of_getElem? hi, rfl⟩

theorem has_replicate {n i : Nat} : Has (List.replicate n true) i ↔ i < n := by
  simp [Has, List.getElem?_replicate]

end Places

/-! ### Rules -/

theorem getElem?_sides (before : Option Char) (text : List Char) (i : Nat) (hi : i ≤ text.length) :
    (sides before text)[i]? = some ((text.take i).getLast?.or before, (text.drop i).head?) := by
  induction text generalizing before i with
  | nil =>
    obtain rfl : i = 0 := by simpa using hi
    simp [sides]
  | cons c rest ih =>
    cases i with
    | zero => simp [sides]
    | succ i =>
      have hle : i ≤ rest.length := by simpa using hi
      have hlast : ((c :: rest).take (i + 1)).getLast?.or before = (rest.take i).getLast?.or (some c) := by
        rw [List.take_succ_cons, List.getLast?_cons]
        cases (rest.take i).getLast? <;> rfl
      rw [sides, List.getElem?_cons_succ, ih (some c) i hle, hlast, List.drop_succ_cons]

theorem length_sides (before : Option Char) (text : List Char) :
    (sides before text).length = text.length + 1 := by
  induction text generalizing before with
  | nil => rfl
  | cons c rest ih => rw [sides, List.length_cons, ih, List.length_cons]

namespace Regex

/-- In `text` the expression leads from the place `i` to the place `j` just if `leads i j`. -/
structure Spans (text : List Char) (r : Regex) (leads : Nat → Nat → Prop) : Prop where
  length : ∀ s, s.length = text.length + 1 → (r.run text s).length = text.length + 1
  has : ∀ s, s.length = text.length + 1 → ∀ j, (r.run text s).Has j ↔ ∃ i, s.Has i ∧ leads i j

namespace Spans

variable {text : List Char} {a b r : Regex} {leads leads' : Nat → Nat → Prop}

theorem congr (h : Spans text r leads) (heq : ∀ i j, leads i j ↔ leads' i j) : Spans text r leads' :=
  ⟨h.length, fun s hs j => (h.has s hs j).trans (by simp only [heq])⟩

theorem look (l : Look) : Spans text (.look l) fun i j =>
    i = j ∧ l.holds (text.take i).getLast? (text.drop i).head? = true := by
  refine ⟨fun s hs => ?_, fun s hs j => ?_⟩
  · rw [run, List.length_zipWith, length_sides, hs, Nat.min_self]
  · unfold Places.Has
    rw [run, List.getElem?_zipWith]
    by_cases hj : j ≤ text.length
    · rw [getElem?_sides none text j hj, Option.or_none,
        List.getElem?_eq_getElem (by omega : j < s.length)]
      constructor
      · intro h
        simp only [Option.some.injEq, Bool.and_eq_true] at h
        exact ⟨j, by rw [List.getElem?_eq_getElem (by omega), h.1], rfl, h.2⟩
      · rintro ⟨i, hi, rfl, hl⟩
        rw [List.getElem?_eq_getElem (by omega)] at hi
        show some (_ && _) = some true
        rw [Option.some.inj hi, hl, Bool.and_self]
    · have hnone : s[j]? = none := List.getElem?_eq_none (by omega)
      constructor
      · intro h
        rw [hnone] at h
        split at h <;> simp_all
      · rintro ⟨i, hi, rfl, -⟩
        rw [hnone] at hi
        cases hi

theorem set (c : CharClass) : Spans text (.set c) fun i j =>
    j = i + 1 ∧ ∃ d, text[i]? = some d ∧ c.contains d = true := by
  refine ⟨fun s hs => ?_, fun s hs j => ?_⟩
  · simp [run, hs]
  · unfold Places.Has
    rw [run]
    cases j with
    | zero => simp
    | succ j =>
      rw [List.getElem?_cons_succ, List.getElem?_zipWith]
      constructor
      · intro h
        split at h
        next d flag hd hflag =>
          simp only [Option.some.injEq, Bool.and_eq_true] at h
          exact ⟨j, hflag.trans (congrArg some h.1), rfl, d, hd, h.2⟩
        · cases h
      · rintro ⟨i, hi, hji, d, hd, hc⟩
        obtain rfl : j = i := by omega
        simp [hi, hd, hc]

theorem cat (ha : Spans text a leads) (hb : Spans text b leads') :
    Spans text (.cat a b) fun i j => ∃ k, leads i k ∧ leads' k j := by
  refine ⟨fun s hs => ?_, fun s hs j => ?_⟩
  · exact hb.length _ (ha.length s hs)
  · rw [run, hb.has _ (ha.length s hs)]
    constructor
    · rintro ⟨k, hk, hkj⟩
      obtain ⟨i, hi, hik⟩ := (ha.has s hs k).1 hk
      exact ⟨i, hi, k, hik, hkj⟩
    · rintro ⟨i, hi, k, hik, hkj⟩
      exact ⟨k, (ha.has s hs k).2 ⟨i, hi, hik⟩, hkj⟩

theorem alt (ha : Spans text a leads) (hb : Spans text b leads') :
    Spans text (.alt a b) fun i j => leads i j ∨ leads' i j := by
  refine ⟨fun s hs => ?_, fun s hs j => ?_⟩
  · rw [run, Places.length_union, ha.length s hs, hb.length s hs, Nat.min_self]
  · rw [run, Places.has_union (by rw [ha.length s hs, hb.length s hs]), ha.has s hs, hb.has s hs]
    simp only [and_or_left, exists_or]

theorem isMatch_iff (h : Spans text r leads) :
    r.isMatch text = true ↔ ∃ i j, i ≤ text.length ∧ leads i j := by
  have hlen : (List.replicate (text.length + 1) true).length = text.length + 1 :=
    List.length_replicate
  rw [isMatch, Bool.not_eq_true', Places.isEmpty_eq_false_iff]
  simp only [h.has _ hlen, Places.has_replicate, Nat.lt_succ_iff]
  exact exists_comm

end Spans

end Regex

end Guideline.Pattern
