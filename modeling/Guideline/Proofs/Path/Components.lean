import Guideline.Path
import Guideline.Proofs.Text.Split

/-!
# What the components of a path keep of it

The components leave out separators and points and nothing else: any other character stands in them as
often as in the path (`count_normalText`). So paths with different numbers of some such character are
different files.
-/

namespace Guideline

namespace Path

/-- The characters of components. -/
def textOf (cs : List Component) : List Char :=
  cs.flatMap fun c => c.text.toList

variable {x : Char} (hslash : x ≠ '/') (hpoint : x ≠ '.')
include hpoint

theorem count_textOf_component? (isFirst : Bool) (piece : List Char) :
    (textOf (component? isFirst piece).toList).count x = piece.count x := by
  rw [component?]
  split_ifs <;> simp_all [textOf, Component.text, hpoint.symm]

theorem count_textOf_filterMap (pieces : List (List Char)) :
    (textOf (pieces.filterMap (component? false))).count x = pieces.flatten.count x := by
  induction pieces with
  | nil => rfl
  | cons piece pieces ih =>
    have hpiece := count_textOf_component? hpoint false piece
    rw [List.flatten_cons, List.count_append, ← ih, ← hpiece]
    cases hc : component? false piece <;> simp [hc, textOf]

theorem count_textOf_filter (cs : List Component) :
    (textOf (cs.filter (· ≠ .current))).count x = (textOf cs).count x := by
  induction cs with
  | nil => rfl
  | cons c cs ih =>
    by_cases hc : c = .current
    · subst hc
      simpa [textOf, Component.text, hpoint.symm] using ih
    · simpa [textOf, hc] using ih

include hslash

theorem count_textOf_components (path : String) :
    (textOf (components path)).count x = path.toList.count x := by
  have hall : (Text.splitAtChar '/' path.toList).flatten.count x = path.toList.count x := by
    rw [Text.flatten_splitAtChar, List.count_filter (by simpa using hslash)]
  rw [components, ← hall]
  cases hsplit : Text.splitAtChar '/' path.toList with
  | nil => rfl
  | cons first rest =>
    have hfirst : (textOf (if path.toList.head? = some '/' then [.root]
        else (component? true first).toList)).count x = first.count x := by
      split_ifs with habsolute
      · -- nothing stands before the leading separator
        obtain ⟨cs, hcs⟩ := List.head?_eq_some_iff.1 habsolute
        rw [hcs, Text.splitAtChar_cons_self] at hsplit
        obtain ⟨rfl, -⟩ := List.cons.inj hsplit
        simp [textOf, Component.text, hslash.symm]
      · exact count_textOf_component? hpoint true first
    rw [List.flatten_cons, List.count_append, ← hfirst, ← count_textOf_filterMap hpoint rest]
    simp only [textOf, List.flatMap_append, List.count_append]

/-- Characters other than separators and points stand in the components as often as in the path. -/
theorem count_normalText (path : String) :
    (textOf (normalComponents path)).count x = path.toList.count x := by
  rw [normalComponents, count_textOf_filter hpoint, count_textOf_components hslash hpoint]

end Path

end Guideline
