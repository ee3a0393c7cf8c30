import Guideline.Path

/-!
# The order of paths

Components compare by rank and then by name, and paths lexicographically by their components, so
`Path.cmp` is a lawful comparison: it can order the keys of a map.
-/

namespace Guideline.Path

/-- The name of a component, empty for those without one. -/
def Component.name : Component → String
  | .normal name => name
  | _ => ""

theorem Component.cmp_eq_compareLex :
    Component.cmp = compareLex (compareOn Component.rank) (compareOn Component.name) := by
  funext a b
  cases a with
  | normal x =>
    cases b with
    | normal y => simp [Component.cmp, compareLex, compareOn, rank, name]
    | _ => rfl
  | _ => cases b <;> rfl

instance : Std.TransCmp Component.cmp := by
  rw [Component.cmp_eq_compareLex]; infer_instance

instance : Std.LawfulEqCmp Component.cmp where
  compare_self := Std.ReflCmp.compare_self
  eq_of_compare {a b} h := by
    cases a with
    | normal x =>
      cases b with
      | normal y => exact congrArg _ (Std.LawfulEqCmp.eq_of_compare (show compare x y = .eq from h))
      | _ => exact absurd h (by simp [Component.cmp, Component.rank])
    | _ =>
      cases b <;> first | rfl | exact absurd h (by simp [Component.cmp, Component.rank])

theorem cmpComponents_eq_compareLex : cmpComponents = List.compareLex Component.cmp := by
  funext a b
  induction a generalizing b with
  | nil => cases b <;> rfl
  | cons x a ih =>
    cases b with
    | nil => rfl
    | cons y b => rw [cmpComponents, List.compareLex_cons_cons, ih]

instance : Std.TransCmp cmpComponents := by
  rw [cmpComponents_eq_compareLex]; infer_instance

instance : Std.LawfulEqCmp cmpComponents := by
  rw [cmpComponents_eq_compareLex]; infer_instance

instance : Std.TransCmp cmp where
  eq_swap {a b} := by
    show cmpComponents (components a) (components b) = (cmpComponents (components b) (components a)).swap
    exact Std.OrientedCmp.eq_swap
  isLE_trans {a b c} hab hbc := by
    show (cmpComponents (components a) (components c)).isLE
    exact Std.TransCmp.isLE_trans hab hbc

theorem cmp_eq_eq_iff {a b : String} : cmp a b = .eq ↔ components a = components b :=
  (Std.LawfulEqCmp.compare_eq_iff_eq : cmpComponents (components a) (components b) = .eq ↔ _)

end Guideline.Path
