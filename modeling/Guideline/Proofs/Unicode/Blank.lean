import Guideline.Text.Blank
import Guideline.Unicode.Alphanumeric

/-!
# White space is not alphanumeric

The tables of letters and numbers are compared with the white space characters row by row
(`Ranges.disjoint_ofRows_cons`): reading a row from its characters is a computation that the kernel can
do, while taking a long text apart is not.
-/

namespace Guideline.Unicode

namespace Ranges

/-- No code point is in both. -/
def disjoint (a b : Ranges) : Bool :=
  a.all fun (lo, hi) => b.all fun (lo', hi') => hi < lo' || hi' < lo

theorem contains_eq_false_of_disjoint {a b : Ranges} (h : a.disjoint b = true) {c : Char}
    (hc : b.contains c = true) : a.contains c = false := by
  simp only [disjoint, List.all_eq_true, Bool.or_eq_true, decide_eq_true_eq] at h
  simp only [contains, List.any_eq_true, Bool.and_eq_true, decide_eq_true_eq] at hc
  obtain ⟨⟨lo', hi'⟩, hmem', hlo', hhi'⟩ := hc
  rw [contains, List.any_eq_false]
  rintro ⟨lo, hi⟩ hmem
  have := h (lo, hi) hmem (lo', hi') hmem'
  simp only [Bool.and_eq_true, decide_eq_true_eq]
  omega

theorem disjoint_append {a a' b : Ranges} (h : a.disjoint b = true) (h' : a'.disjoint b = true) :
    Ranges.disjoint (a ++ a') b = true := by
  rw [disjoint, List.all_append, Bool.and_eq_true]
  exact ⟨h, h'⟩

/-- Reads a row from its characters. -/
def ofChars (cs : List Char) : Ranges :=
  (cs.foldl Reading.step {}).close.reverse

theorem disjoint_ofRows_nil (b : Ranges) : (ofRows []).disjoint b = true := rfl

theorem disjoint_ofRows_cons {b : Ranges} {cs : List Char} {rows : List String}
    (h : (ofChars cs).disjoint b = true) (hrows : (ofRows rows).disjoint b = true) :
    (ofRows (String.ofList cs :: rows)).disjoint b = true := by
  rw [ofRows, List.flatMap_cons, ofRow, String.toList_ofList]
  exact disjoint_append h hrows

end Ranges

/-- The code points of the categories of a table that have the given names. -/
def rangesOf (names : List String) (table : List (String × List String)) : Ranges :=
  (table.filter fun (name, _) => names.contains name).flatMap fun (_, rows) => Ranges.ofRows rows

section

variable {names : List String} {b : Ranges} {name : String} {rows : List String}
  {table : List (String × List String)}

theorem disjoint_rangesOf_nil : (rangesOf names []).disjoint b = true := rfl

theorem rangesOf_cons : rangesOf names ((name, rows) :: table) =
    (if names.contains name then Ranges.ofRows rows else []) ++ rangesOf names table := by
  simp only [rangesOf, List.filter_cons]
  split <;> rfl

theorem disjoint_rangesOf_skip (h : names.contains name = false)
    (htable : (rangesOf names table).disjoint b = true) :
    (rangesOf names ((name, rows) :: table)).disjoint b = true := by
  rw [rangesOf_cons, h]
  exact htable

theorem disjoint_rangesOf_keep (h : names.contains name = true)
    (hrows : (Ranges.ofRows rows).disjoint b = true)
    (htable : (rangesOf names table).disjoint b = true) :
    (rangesOf names ((name, rows) :: table)).disjoint b = true := by
  rw [rangesOf_cons, h]
  exact Ranges.disjoint_append hrows htable

end

/-- White space above ASCII. -/
def blankRanges : Ranges :=
  [(0x85, 0x85), (0xA0, 0xA0), (0x1680, 0x1680), (0x2000, 0x200A), (0x2028, 0x2029), (0x202F, 0x202F),
    (0x205F, 0x205F), (0x3000, 0x3000)]

theorem disjoint_alphabeticTable : alphabeticTable.disjoint blankRanges = true := by
  unfold alphabeticTable
  repeat refine Ranges.disjoint_ofRows_cons (by decide +kernel) ?_
  exact Ranges.disjoint_ofRows_nil _

theorem disjoint_numberTable : numberTable.disjoint blankRanges = true := by
  change (rangesOf ["Nd", "Nl", "No"] categoryTable).disjoint blankRanges = true
  unfold categoryTable
  -- The categories before and after the three of numbers do not matter.
  iterate 12 refine disjoint_rangesOf_skip (by decide) ?_
  iterate 3
    refine disjoint_rangesOf_keep (by decide) ?_ ?_
    · repeat refine Ranges.disjoint_ofRows_cons (by decide +kernel) ?_
      exact Ranges.disjoint_ofRows_nil _
  repeat refine disjoint_rangesOf_skip (by decide) ?_
  exact disjoint_rangesOf_nil

theorem isAlphanum_eq_false : ∀ n ∈ [9, 10, 11, 12, 13, 0x20], (Char.ofNat n).isAlphanum = false := by
  decide

theorem isAlphanumeric_eq_false_of_isBlank {c : Char} (h : Text.isBlank c = true) :
    isAlphanumeric c = false := by
  simp only [Text.isBlank, Bool.or_eq_true, Bool.and_eq_true, decide_eq_true_eq, beq_iff_eq] at h
  rw [isAlphanumeric]
  split
  · have hmem : c.toNat ∈ [9, 10, 11, 12, 13, 0x20] := by
      simp only [List.mem_cons, List.not_mem_nil, or_false]
      omega
    have := isAlphanum_eq_false c.toNat hmem
    rwa [Char.ofNat_toNat] at this
  · have hblank : blankRanges.contains c = true := by
      simp only [blankRanges, Ranges.contains, List.any_cons, List.any_nil, Bool.or_eq_true,
        Bool.and_eq_true, decide_eq_true_eq, Bool.false_eq_true, or_false]
      omega
    rw [Ranges.contains_eq_false_of_disjoint disjoint_alphabeticTable hblank,
      Ranges.contains_eq_false_of_disjoint disjoint_numberTable hblank]
    rfl

end Guideline.Unicode
