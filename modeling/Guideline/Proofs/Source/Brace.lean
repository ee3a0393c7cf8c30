import Mathlib.Data.List.Basic
import Mathlib.Tactic.Common

/-!
# Words of braces

The braces of a text with their lines, and what it means that they match: a closing brace matches an
opening one if the word between them is `Balanced`. `closer?` finds the match of an opening brace by
counting depth, `matching` lists it for every opening brace and `strays` lists the closing braces that
match nothing. Every word is balanced, or has a first brace that is left unmatched
(`balanced_or_firstUnmatched`). `unclosed` numbers the opening braces without a match; the last of them
is the one that a further closing brace matches (`unclosed_append_closing`).
-/

namespace Guideline.Source

/-- A brace and its line. -/
inductive Brace where
  | opening (line : Nat)
  | closing (line : Nat)
deriving DecidableEq, Repr

namespace Brace

def line : Brace → Nat
  | opening n => n
  | closing n => n

/-- Words in which every brace has its match. -/
inductive Balanced : List Brace → Prop
  | nil : Balanced []
  | wrap {a b : Nat} {u v : List Brace} : Balanced u → Balanced v →
      Balanced (opening a :: (u ++ closing b :: v))

/-- The brace between `u` and `v` has a match in the word. -/
def Matched (u : List Brace) (x : Brace) (v : List Brace) : Prop :=
  match x with
  | opening _ => ∃ w n v', v = w ++ closing n :: v' ∧ Balanced w
  | closing _ => ∃ u' n w, u = u' ++ opening n :: w ∧ Balanced w

/-- The brace is the first of the word that is left without a match. -/
def FirstUnmatched (w : List Brace) (x : Brace) : Prop :=
  ∃ u v, w = u ++ x :: v ∧ ¬ Matched u x v ∧
    ∀ u₁ y u₂, u = u₁ ++ y :: u₂ → Matched u₁ y (u₂ ++ x :: v)

/-- The line of the closing brace that leaves `depth` more blocks than it entered. -/
def closer? : (depth : Nat) → List Brace → Option Nat
  | _, [] => none
  | depth, opening _ :: w => closer? (depth + 1) w
  | 0, closing n :: _ => some n
  | depth + 1, closing _ :: w => closer? depth w

/-- The lines of opening braces, each with the line of its match. -/
def matching : List Brace → List (Nat × Option Nat)
  | [] => []
  | opening n :: w => (n, closer? 0 w) :: matching w
  | closing _ :: w => matching w

/-- The lines of the closing braces that close none of `depth` open blocks. -/
def strays : (depth : Nat) → List Brace → List Nat
  | _, [] => []
  | depth, opening _ :: w => strays (depth + 1) w
  | 0, closing n :: w => n :: strays 0 w
  | depth + 1, closing _ :: w => strays depth w

/-- The lines of the opening braces. -/
def openLines (w : List Brace) : List Nat :=
  w.filterMap fun
    | opening n => some n
    | closing _ => none

section

variable {u v w : List Brace} {d n : Nat}

/-! ### Balanced words -/

theorem Balanced.append (hu : Balanced u) (hv : Balanced v) : Balanced (u ++ v) := by
  induction hu with
  | nil => exact hv
  | wrap hp _ _ ihq =>
    rw [List.cons_append, List.append_assoc, List.cons_append]
    exact .wrap hp ihq

theorem Balanced.closer?_append (h : Balanced u) (d : Nat) (w : List Brace) :
    closer? d (u ++ w) = closer? d w := by
  induction h generalizing d w with
  | nil => rfl
  | @wrap a b u v _ _ ihu ihv =>
    rw [List.cons_append, List.append_assoc, List.cons_append, closer?, ihu, closer?, ihv]

theorem Balanced.strays_append (h : Balanced u) (d : Nat) (w : List Brace) :
    strays d (u ++ w) = strays d w := by
  induction h generalizing d w with
  | nil => rfl
  | @wrap a b u v _ _ ihu ihv =>
    rw [List.cons_append, List.append_assoc, List.cons_append, strays, ihu, strays, ihv]

theorem Balanced.closer?_eq_none (h : Balanced w) (d : Nat) : closer? d w = none := by
  have := h.closer?_append d []
  rw [List.append_nil] at this
  rw [this, closer?]

/-- No brace behind one that leaves more blocks than it entered leaves even more. -/
theorem closer?_succ_eq_none (h : closer? d w = none) : closer? (d + 1) w = none := by
  induction w generalizing d with
  | nil => rfl
  | cons x w ih =>
    cases x with
    | opening a => exact ih h
    | closing a =>
      cases d with
      | zero => simp [closer?] at h
      | succ d => exact ih h

theorem strays_succ_eq_nil (h : closer? d w = none) : strays (d + 1) w = [] := by
  induction w generalizing d with
  | nil => rfl
  | cons x w ih =>
    cases x with
    | opening a => exact ih h
    | closing a =>
      cases d with
      | zero => simp [closer?] at h
      | succ d => exact ih h

/-- A word is balanced, or it is balanced up to a closing brace that closes nothing or an opening
brace that is not closed. -/
theorem balanced_or_exists (w : List Brace) :
    Balanced w ∨ (∃ u n v, w = u ++ closing n :: v ∧ Balanced u) ∨
      ∃ u n v, w = u ++ opening n :: v ∧ Balanced u ∧ closer? 0 v = none := by
  -- What follows an opening brace is cut at the brace that closes it, so the induction is on length.
  induction hlen : w.length using Nat.strongRecOn generalizing w with
  | _ len ih =>
    match w with
    | [] => exact .inl .nil
    | closing n :: v => exact .inr (.inl ⟨[], n, v, rfl, .nil⟩)
    | opening a :: v =>
      rw [List.length_cons] at hlen
      rcases ih v.length (by omega) v rfl with hv | ⟨u, n, v', rfl, hu⟩ | ⟨u, b, v', rfl, hu, hv'⟩
      · exact .inr (.inr ⟨[], a, v, rfl, .nil, hv.closer?_eq_none 0⟩)
      · have hlt : v'.length < len := by
          rw [List.length_append, List.length_cons] at hlen
          omega
        rcases ih v'.length hlt v' rfl with hv' | ⟨u', m, v'', rfl, hu'⟩ | ⟨u', m, v'', rfl, hu', hv''⟩
        · exact .inl (.wrap hu hv')
        · exact .inr (.inl ⟨_, m, v'', by simp, Balanced.wrap (a := a) (b := n) hu hu'⟩)
        · exact .inr (.inr ⟨_, m, v'', by simp, Balanced.wrap (a := a) (b := n) hu hu', hv''⟩)
      · refine .inr (.inr ⟨[], a, _, rfl, .nil, ?_⟩)
        rw [hu.closer?_append, closer?]
        exact closer?_succ_eq_none hv'

/-- Counting depth finds the closing brace behind a balanced word. -/
theorem closer?_zero_eq_some_iff :
    closer? 0 w = some n ↔ ∃ u v, w = u ++ closing n :: v ∧ Balanced u := by
  constructor
  · intro h
    rcases balanced_or_exists w with hw | ⟨u, m, v, rfl, hu⟩ | ⟨u, m, v, rfl, hu, hv⟩
    · rw [hw.closer?_eq_none] at h
      contradiction
    · rw [hu.closer?_append, closer?, Option.some.injEq] at h
      exact ⟨u, v, by rw [h], hu⟩
    · rw [hu.closer?_append, closer?, closer?_succ_eq_none hv] at h
      contradiction
  · rintro ⟨u, v, rfl, hu⟩
    rw [hu.closer?_append, closer?]

theorem matched_opening_iff {a : Nat} : Matched u (opening a) v ↔ ∃ n, closer? 0 v = some n := by
  simp only [Matched, closer?_zero_eq_some_iff]
  constructor
  · rintro ⟨w, n, v', h⟩
    exact ⟨n, w, v', h⟩
  · rintro ⟨n, w, v', h⟩
    exact ⟨w, n, v', h⟩

theorem Matched.append_left {x : Brace} (h : Matched u x v) (t : List Brace) :
    Matched (t ++ u) x v := by
  cases x with
  | opening a => exact h
  | closing a =>
    obtain ⟨u', m, w, rfl, hw⟩ := h
    exact ⟨t ++ u', m, w, by simp, hw⟩

theorem Matched.append_right {x : Brace} (h : Matched u x v) (t : List Brace) :
    Matched u x (v ++ t) := by
  cases x with
  | opening a =>
    obtain ⟨w, m, v', rfl, hw⟩ := h
    exact ⟨w, m, v' ++ t, by simp, hw⟩
  | closing a => exact h

/-- Every brace of a balanced word has its match in it. -/
theorem Balanced.matched (h : Balanced w) {x : Brace} (hw : w = u ++ x :: v) : Matched u x v := by
  induction h generalizing u v with
  | nil => simp at hw
  | @wrap a b p q hp _ ihp ihq =>
    rcases List.cons_eq_append_iff.1 hw with ⟨rfl, hx⟩ | ⟨u', rfl, hu'⟩
    · obtain ⟨rfl, rfl⟩ := List.cons.inj hx
      exact ⟨p, b, q, rfl, hp⟩
    · rcases List.append_eq_append_iff.1 hu' with ⟨r, rfl, hr⟩ | ⟨r, rfl, hr⟩
      · -- The brace is the closing one, or behind it.
        rcases List.cons_eq_append_iff.1 hr with ⟨rfl, hx⟩ | ⟨r', rfl, hr'⟩
        · obtain ⟨rfl, rfl⟩ := List.cons.inj hx
          exact ⟨[], a, p, by simp, hp⟩
        · have := (ihq hr').append_left (opening a :: (p ++ [closing b]))
          simpa using this
      · rcases List.cons_eq_append_iff.1 hr with ⟨rfl, hx⟩ | ⟨r', rfl, rfl⟩
        · obtain ⟨rfl, rfl⟩ := List.cons.inj hx
          exact ⟨[], a, u', by simp, by simpa using hp⟩
        · exact ((ihp rfl).append_left [opening a]).append_right (closing b :: q)

/-- A balanced word cannot be balanced from behind one of its opening braces. -/
theorem Balanced.not_balanced_suffix {a : Nat} (h : Balanced (u ++ opening a :: w)) :
    ¬ Balanced w := by
  intro hw
  obtain ⟨m, hm⟩ := matched_opening_iff.1 (h.matched rfl)
  rw [hw.closer?_eq_none] at hm
  contradiction

/-! ### The first unmatched brace -/

theorem Balanced.firstUnmatched (h : Balanced u) {x : Brace} (hx : ¬ Matched u x v) :
    FirstUnmatched (u ++ x :: v) x :=
  ⟨u, v, rfl, hx, fun _ _ _ hu => (h.matched hu).append_right _⟩

theorem Balanced.not_matched_closing (h : Balanced u) : ¬ Matched u (closing n) v := by
  rintro ⟨u', m, w, rfl, hw⟩
  exact h.not_balanced_suffix hw

theorem not_matched_opening (h : closer? 0 v = none) : ¬ Matched u (opening n) v := by
  rw [matched_opening_iff, h]
  simp

/-! ### Lists of lines -/

theorem openLines_append (u v : List Brace) : openLines (u ++ v) = openLines u ++ openLines v :=
  List.filterMap_append

theorem map_fst_matching (w : List Brace) : (matching w).map Prod.fst = openLines w := by
  induction w with
  | nil => rfl
  | cons x w ih =>
    cases x with
    | opening a => rw [matching, List.map_cons, ih]; rfl
    | closing a => rw [matching, ih]; rfl

theorem matching_append_opening (u v : List Brace) (n : Nat) :
    (matching (u ++ opening n :: v))[(openLines u).length]? = some (n, closer? 0 v) := by
  induction u with
  | nil => rfl
  | cons x u ih => cases x <;> simpa [matching, openLines] using ih

theorem exists_of_mem_matching {p : Nat × Option Nat} (h : p ∈ matching w) :
    ∃ u v, w = u ++ opening p.1 :: v ∧ p.2 = closer? 0 v := by
  induction w with
  | nil => simp [matching] at h
  | cons x w ih =>
    cases x with
    | opening a =>
      rcases List.mem_cons.1 h with rfl | h
      · exact ⟨[], w, rfl, rfl⟩
      · obtain ⟨u, v, rfl, hp⟩ := ih h
        exact ⟨opening a :: u, v, rfl, hp⟩
    | closing a =>
      obtain ⟨u, v, rfl, hp⟩ := ih h
      exact ⟨closing a :: u, v, rfl, hp⟩

theorem Balanced.find?_matching_append (h : Balanced u) (w : List Brace) :
    (matching (u ++ w)).find? (·.2.isNone) = (matching w).find? (·.2.isNone) := by
  induction h generalizing w with
  | nil => rfl
  | @wrap a b p q hp _ ihp ihq =>
    rw [List.cons_append, List.append_assoc, List.cons_append, matching, hp.closer?_append, closer?,
      List.find?_cons_of_neg (by simp), ihp, matching, ihq]

/-- The first line at which braces stop matching, by what is left over of either kind. -/
def firstLeft (w : List Brace) : Option Nat :=
  match (strays 0 w).head?, ((matching w).find? (·.2.isNone)).map Prod.fst with
  | some a, some b => some (min a b)
  | a, b => a.or b

theorem Balanced.firstLeft_eq (h : Balanced w) : firstLeft w = none := by
  have hs := h.strays_append 0 []
  have hm := h.find?_matching_append []
  rw [List.append_nil] at hs hm
  rw [firstLeft, hs, hm]
  rfl

theorem Balanced.firstLeft_closing (h : Balanced u) (hv : ∀ x ∈ v, n ≤ x.line) :
    firstLeft (u ++ closing n :: v) = some n := by
  rw [firstLeft, h.strays_append, strays, h.find?_matching_append, matching, List.head?_cons]
  cases hf : (matching v).find? (·.2.isNone) with
  | none => rfl
  | some p =>
    obtain ⟨v₁, v₂, rfl, -⟩ := exists_of_mem_matching (List.mem_of_find?_eq_some hf)
    have hle : n ≤ p.1 := hv (opening p.1) (by simp)
    simp [hle]

theorem Balanced.firstLeft_opening (h : Balanced u) (hv : closer? 0 v = none) :
    firstLeft (u ++ opening n :: v) = some n := by
  rw [firstLeft, h.strays_append, strays, strays_succ_eq_nil hv, h.find?_matching_append, matching, hv,
    List.find?_cons_of_pos (by simp)]
  rfl

/-- Where lines do not decrease, the first line at which braces stop matching is that of the first
unmatched brace. -/
theorem balanced_or_firstUnmatched (hw : w.Pairwise (·.line ≤ ·.line)) :
    (Balanced w ∧ firstLeft w = none) ∨ ∃ x, FirstUnmatched w x ∧ firstLeft w = some x.line := by
  rcases balanced_or_exists w with h | ⟨u, n, v, rfl, hu⟩ | ⟨u, n, v, rfl, hu, hv⟩
  · exact .inl ⟨h, h.firstLeft_eq⟩
  · have hle := (List.pairwise_cons.1 (List.pairwise_append.1 hw).2.1).1
    exact .inr ⟨closing n, hu.firstUnmatched hu.not_matched_closing, hu.firstLeft_closing hle⟩
  · exact .inr ⟨opening n, hu.firstUnmatched (not_matched_opening hv), hu.firstLeft_opening hv⟩

theorem FirstUnmatched.not_balanced {x : Brace} (h : FirstUnmatched w x) : ¬ Balanced w := by
  obtain ⟨u, v, rfl, hx, -⟩ := h
  exact fun hw => hx (hw.matched rfl)

theorem firstLeft_eq_none_iff (hw : w.Pairwise (·.line ≤ ·.line)) :
    firstLeft w = none ↔ Balanced w := by
  refine ⟨fun h => ?_, Balanced.firstLeft_eq⟩
  rcases balanced_or_firstUnmatched hw with ⟨hb, -⟩ | ⟨x, -, hx⟩
  · exact hb
  · rw [h] at hx
    contradiction

theorem FirstUnmatched.unique {x y : Brace} (hx : FirstUnmatched w x) (hy : FirstUnmatched w y) :
    x = y := by
  obtain ⟨u, v, rfl, hx, hu⟩ := hx
  obtain ⟨u', v', h, hy, hu'⟩ := hy
  rcases List.append_eq_append_iff.1 h with ⟨r, rfl, hr⟩ | ⟨r, rfl, hr⟩
  · rcases List.cons_eq_append_iff.1 hr with ⟨rfl, hxy⟩ | ⟨r, rfl, rfl⟩
    · exact ((List.cons.inj hxy).1).symm
    · exact absurd (hu' u x r rfl) hx
  · rcases List.cons_eq_append_iff.1 hr with ⟨rfl, hxy⟩ | ⟨r, rfl, rfl⟩
    · exact (List.cons.inj hxy).1
    · exact absurd (hu u' y r rfl) hy

theorem firstLeft_eq_some_iff (hw : w.Pairwise (·.line ≤ ·.line)) :
    firstLeft w = some n ↔ ∃ x, FirstUnmatched w x ∧ x.line = n := by
  rcases balanced_or_firstUnmatched hw with ⟨hb, h⟩ | ⟨x, hx, h⟩
  · rw [h]
    exact ⟨fun h' => by contradiction, fun ⟨x, hx, _⟩ => absurd hb hx.not_balanced⟩
  · rw [h, Option.some.injEq]
    refine ⟨fun h' => ⟨x, hx, h'⟩, fun ⟨y, hy, hn⟩ => ?_⟩
    rw [hx.unique hy, hn]

/-! ### Braces that are still open -/

/-- The numbers of the opening braces that match nothing in the word, if `count` opening braces stand
before it. -/
def unclosed (count : Nat) : List Brace → List Nat
  | [] => []
  | opening _ :: w =>
    if (closer? 0 w).isNone then count :: unclosed (count + 1) w else unclosed (count + 1) w
  | closing _ :: w => unclosed count w

theorem closer?_append_opening (d : Nat) (w : List Brace) (n : Nat) :
    closer? d (w ++ [opening n]) = closer? d w := by
  induction w generalizing d with
  | nil => rfl
  | cons x w ih =>
    cases x with
    | opening a => exact ih (d + 1)
    | closing a =>
      cases d with
      | zero => rfl
      | succ d => exact ih d

theorem closer?_append_of_some {m : Nat} (h : closer? d w = some m) (v : List Brace) :
    closer? d (w ++ v) = some m := by
  induction w generalizing d with
  | nil => cases h
  | cons x w ih =>
    cases x with
    | opening a => exact ih h
    | closing a =>
      cases d with
      | zero => exact h
      | succ d => exact ih h

theorem closer?_succ_append_closing (h : closer? d w = none) (n : Nat) :
    closer? (d + 1) (w ++ [closing n]) = none := by
  induction w generalizing d with
  | nil => rfl
  | cons x w ih =>
    cases x with
    | opening a => exact ih h
    | closing a =>
      cases d with
      | zero => cases h
      | succ d => exact ih h

/-- No word ends within a group it has opened and is balanced. -/
theorem Balanced.not_append_opening (hv : Balanced v) (hbegins : w <+: v) (u : List Brace) (a : Nat) :
    ¬ Balanced (u ++ opening a :: w) := by
  intro hb
  obtain ⟨n, hn⟩ := matched_opening_iff.1 (hb.matched rfl)
  obtain ⟨rest, rfl⟩ := hbegins
  have hsome := closer?_append_of_some hn rest
  rw [hv.closer?_eq_none] at hsome
  cases hsome

theorem Balanced.unclosed_append (h : Balanced u) (count : Nat) (w : List Brace) :
    ∃ count', unclosed count (u ++ w) = unclosed count' w := by
  induction h generalizing count w with
  | nil => exact ⟨count, rfl⟩
  | @wrap a b u v hu _ ihu ihv =>
    rw [List.cons_append, List.append_assoc, List.cons_append, unclosed, hu.closer?_append, closer?]
    obtain ⟨count', hu'⟩ := ihu (count + 1) (closing b :: (v ++ w))
    obtain ⟨count'', hv'⟩ := ihv count' w
    exact ⟨count'', hu'.trans hv'⟩

/-- A further closing brace goes unmatched just if all braces before it are matched. -/
theorem closer?_append_closing_eq_none_iff (h : closer? 0 w = none) (count n : Nat) :
    closer? 0 (w ++ [closing n]) = none ↔ unclosed count w ≠ [] := by
  rcases balanced_or_exists w with hw | ⟨u, m, v, rfl, hu⟩ | ⟨u, m, v, rfl, hu, hv⟩
  · obtain ⟨count', hnil⟩ := hw.unclosed_append count []
    rw [List.append_nil] at hnil
    rw [hw.closer?_append, hnil]
    simp [closer?, unclosed]
  · rw [hu.closer?_append, closer?] at h
    cases h
  · obtain ⟨count', hopen⟩ := hu.unclosed_append count (opening m :: v)
    rw [hopen, unclosed, hv, List.append_assoc, hu.closer?_append, List.cons_append, closer?,
      closer?_succ_append_closing hv]
    simp

theorem unclosed_append_opening (count : Nat) (w : List Brace) (n : Nat) :
    unclosed count (w ++ [opening n]) = unclosed count w ++ [count + (openLines w).length] := by
  induction w generalizing count with
  | nil => rfl
  | cons x w ih =>
    cases x with
    | opening a =>
      have hlength : (openLines (opening a :: w)).length = (openLines w).length + 1 := rfl
      rw [List.cons_append, unclosed, unclosed, closer?_append_opening, ih, hlength]
      split <;> simp [Nat.add_assoc, Nat.add_comm 1]
    | closing a => exact ih count

theorem unclosed_append_closing (count : Nat) (w : List Brace) (n : Nat) :
    unclosed count (w ++ [closing n]) = (unclosed count w).dropLast := by
  induction w generalizing count with
  | nil => rfl
  | cons x w ih =>
    cases x with
    | closing a => exact ih count
    | opening a =>
      rw [List.cons_append, unclosed, unclosed, ih]
      cases hw : closer? 0 w with
      | some m => rw [closer?_append_of_some hw]; rfl
      | none =>
        have hmatch := closer?_append_closing_eq_none_iff hw (count + 1) n
        cases hrest : unclosed (count + 1) w with
        | nil =>
          have hsome : closer? 0 (w ++ [closing n]) ≠ none := fun hnone => hmatch.1 hnone hrest
          obtain ⟨m, hm⟩ := Option.ne_none_iff_exists'.1 hsome
          rw [hm]
          rfl
        | cons i rest =>
          rw [hmatch.2 (by simp [hrest])]
          rfl

/-- Behind the last brace that is still open all braces are matched. -/
theorem exists_of_unclosed_ne_nil {count : Nat} (h : unclosed count w ≠ []) :
    ∃ u n v, w = u ++ opening n :: v ∧ Balanced v := by
  induction w generalizing count with
  | nil => exact absurd rfl h
  | cons x w ih =>
    by_cases hrest : ∃ count', unclosed count' w ≠ []
    · obtain ⟨count', hrest⟩ := hrest
      obtain ⟨u, n, v, rfl, hv⟩ := ih hrest
      exact ⟨x :: u, n, v, rfl, hv⟩
    · have hnil : ∀ count', unclosed count' w = [] := fun count' => by_contra fun hne => hrest ⟨count', hne⟩
      cases x with
      | closing a => exact absurd (hnil count) h
      | opening a =>
        rw [unclosed, hnil] at h
        cases hw : closer? 0 w with
        | some m => simp [hw] at h
        | none =>
          rcases balanced_or_exists w with hb | ⟨u, n, v, rfl, hu⟩ | ⟨u, n, v, rfl, hu, hv⟩
          · exact ⟨[], a, w, rfl, hb⟩
          · rw [hu.closer?_append, closer?] at hw
            cases hw
          · obtain ⟨count', hopen⟩ := hu.unclosed_append 0 (opening n :: v)
            rw [hnil, unclosed, hv] at hopen
            cases hopen

theorem exists_of_getElem?_openLines {i : Nat} (h : (openLines w)[i]? = some n) :
    ∃ u v, w = u ++ opening n :: v ∧ (openLines u).length = i := by
  induction w generalizing i with
  | nil => cases h
  | cons x w ih =>
    cases x with
    | opening a =>
      cases i with
      | zero =>
        obtain rfl : a = n := Option.some.inj h
        exact ⟨[], w, rfl, rfl⟩
      | succ i =>
        obtain ⟨u, v, rfl, hu⟩ := ih (i := i) h
        exact ⟨opening a :: u, v, rfl, congrArg (· + 1) hu⟩
    | closing a =>
      obtain ⟨u, v, rfl, hu⟩ := ih (i := i) h
      exact ⟨closing a :: u, v, rfl, hu⟩

end

end Brace

end Guideline.Source
