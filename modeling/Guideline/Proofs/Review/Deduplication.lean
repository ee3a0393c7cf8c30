import Guideline.Proofs.Review.Order

/-!
# One violation a line

In the order of reports the violations on one line stand together. So leaving one violation on every line
does to each line what it would do to the violations on that line alone (`filter_dedupeSameLine`), and there
it leaves the first of the most severe (`exists_dedupeFrom_eq`). The order of reports puts the lowest rule
first among those.
-/

namespace Guideline

namespace Violation

/-- The order of reports by file and line alone. -/
def lineOrder (a b : Violation) : Ordering :=
  (compare a.filePath b.filePath).then (compare a.line b.line)

theorem lineOrder_eq_compareLex : lineOrder = compareLex (compareOn filePath) (compareOn line) :=
  rfl

instance : Std.TransCmp lineOrder := by
  rw [lineOrder_eq_compareLex]; infer_instance

variable {a b c : Violation}

theorem reportOrder_eq_then (a b : Violation) :
    a.reportOrder b = (a.lineOrder b).then (compare a.rule b.rule) := by
  rw [lineOrder, Ordering.then_assoc]
  rfl

theorem sameLine_iff : a.sameLine b = true ↔ a.filePath = b.filePath ∧ a.line = b.line := by
  simp [sameLine]

theorem lineOrder_eq_iff : a.lineOrder b = .eq ↔ a.sameLine b = true := by
  rw [lineOrder, Ordering.then_eq_eq, Std.compare_eq_iff_eq, Std.compare_eq_iff_eq, sameLine_iff]

theorem sameLine_self (a : Violation) : a.sameLine a = true :=
  sameLine_iff.2 ⟨rfl, rfl⟩

theorem sameLine_comm (a b : Violation) : a.sameLine b = b.sameLine a := by
  simp only [sameLine, eq_comm]

/-- Violations on one line are on one line with the same others. -/
theorem sameLine_congr (h : a.sameLine b = true) (c : Violation) : a.sameLine c = b.sameLine c := by
  obtain ⟨hfile, hline⟩ := sameLine_iff.1 h
  rw [sameLine, sameLine, hfile, hline]

/-- Of three violations in order, the first and the last are on one line only if all are. -/
theorem sameLine_of_reportLE (hab : reportLE a b = true) (hbc : reportLE b c = true)
    (hac : a.sameLine c = true) : a.sameLine b = true := by
  have hreport : ∀ {x y : Violation}, reportLE x y = true → (x.lineOrder y).isLE = true := by
    intro x y hxy
    rw [reportLE, reportOrder_eq_then] at hxy
    revert hxy
    cases x.lineOrder y <;> simp
  have hca : c.lineOrder a = .eq := by
    rw [lineOrder_eq_iff, sameLine_comm]
    exact hac
  have hba : (b.lineOrder a).isLE = true := by
    refine Std.TransCmp.isLE_trans (hreport hbc) ?_
    rw [hca]
    rfl
  exact lineOrder_eq_iff.1 (Std.OrientedCmp.isLE_antisymm (hreport hab) hba)

theorem rule_le_of_reportLE (hab : reportLE a b = true) (hsame : a.sameLine b = true) : a.rule ≤ b.rule := by
  rw [reportLE, reportOrder_eq_then, lineOrder_eq_iff.2 hsame] at hab
  exact (isLE_compareOfLessAndEq String.le_antisymm String.not_le String.le_total).1 hab

end Violation

open Violation

section

variable {kept v : Violation} {vs : List Violation}

theorem dedupeFrom_eq_self (h : (kept :: vs).Pairwise fun a b => a.sameLine b = false) :
    dedupeFrom kept vs = kept :: vs := by
  induction vs generalizing kept with
  | nil => rfl
  | cons w vs ih =>
    obtain ⟨hkept, hrest⟩ := List.pairwise_cons.1 h
    have hw : ¬ kept.sameLine w = true := by simp [hkept w (by simp)]
    rw [dedupeFrom, if_neg hw, ih hrest]

/-- Where no two violations are on one line, all are left. -/
theorem dedupeSameLine_eq_self (h : vs.Pairwise fun a b => a.sameLine b = false) : dedupeSameLine vs = vs := by
  cases vs with
  | nil => rfl
  | cons w vs => exact dedupeFrom_eq_self h

/-! ### The violations on one line -/

/-- Of the violations on one line the first of the most severe is kept. -/
theorem exists_dedupeFrom_eq (h : ∀ w ∈ vs, kept.sameLine w = true) :
    ∃ before top after, kept :: vs = before ++ top :: after ∧ dedupeFrom kept vs = [top] ∧
      (∀ w ∈ before, w.severity.rank < top.severity.rank) ∧
      ∀ w ∈ after, w.severity.rank ≤ top.severity.rank := by
  induction vs generalizing kept with
  | nil => exact ⟨[], kept, [], rfl, rfl, by simp, by simp⟩
  | cons w vs ih =>
    obtain ⟨hw, hvs⟩ := List.forall_mem_cons.1 h
    rw [dedupeFrom, if_pos hw]
    by_cases hrank : kept.severity.rank < w.severity.rank
    · have hsame : ∀ x ∈ vs, w.sameLine x = true := by
        intro x hx
        rw [← sameLine_congr hw]
        exact hvs x hx
      obtain ⟨before, top, after, heq, htop, hbefore, hafter⟩ := ih hsame
      have hle : w.severity.rank ≤ top.severity.rank := by
        have hmem : w ∈ before ++ top :: after := heq ▸ List.mem_cons_self
        rcases List.mem_append.1 hmem with hmem | hmem
        · exact Nat.le_of_lt (hbefore w hmem)
        · rcases List.mem_cons.1 hmem with rfl | hmem
          · exact Nat.le_refl _
          · exact hafter w hmem
      rw [if_pos hrank]
      refine ⟨kept :: before, top, after, by rw [heq, List.cons_append], htop, ?_, hafter⟩
      exact List.forall_mem_cons.2 ⟨by omega, hbefore⟩
    · obtain ⟨before, top, after, heq, htop, hbefore, hafter⟩ := ih hvs
      rw [if_neg hrank]
      cases before with
      | nil =>
        obtain ⟨rfl, rfl⟩ := List.cons.inj heq
        exact ⟨[], kept, w :: vs, rfl, htop, by simp, List.forall_mem_cons.2 ⟨by omega, hafter⟩⟩
      | cons k before =>
        obtain ⟨rfl, rfl⟩ := List.cons.inj heq
        have hkept := hbefore kept (by simp)
        refine ⟨kept :: w :: before, top, after, rfl, htop, ?_, hafter⟩
        simp only [List.forall_mem_cons] at hbefore ⊢
        exact ⟨hkept, by omega, hbefore.2⟩

/-! ### Lines of a report -/

/-- Behind a violation on another line none is on the line of the first. -/
theorem not_sameLine_of_pairwise {w : Violation} (h : (kept :: w :: vs).Pairwise (reportLE · ·))
    (hw : kept.sameLine w = false) : ∀ x ∈ w :: vs, kept.sameLine x = false := by
  obtain ⟨hkept, hrest⟩ := List.pairwise_cons.1 h
  intro x hx
  rcases List.mem_cons.1 hx with rfl | hx
  · exact hw
  · rw [← Bool.not_eq_true]
    intro hsame
    have hwx := (List.pairwise_cons.1 hrest).1 x hx
    rw [sameLine_of_reportLE (hkept w (by simp)) hwx hsame] at hw
    cases hw

theorem filter_dedupeFrom (h : (kept :: vs).Pairwise (reportLE · ·)) (v : Violation) :
    (dedupeFrom kept vs).filter (·.sameLine v) = dedupeSameLine ((kept :: vs).filter (·.sameLine v)) := by
  induction vs generalizing kept with
  | nil =>
    by_cases hv : kept.sameLine v = true
    · simp [dedupeFrom, dedupeSameLine, hv]
    · simp [dedupeFrom, dedupeSameLine, hv]
  | cons w vs ih =>
    obtain ⟨hkept, hrest⟩ := List.pairwise_cons.1 h
    have hskip : (kept :: vs).Pairwise (reportLE · ·) :=
      h.sublist (((List.Sublist.refl vs).cons w).cons_cons kept)
    rw [dedupeFrom]
    by_cases hw : kept.sameLine w = true
    · -- Both or neither of the two are on the line of `v`.
      have hboth : w.sameLine v = kept.sameLine v := (sameLine_congr hw v).symm
      rw [if_pos hw]
      split_ifs with hrank
      · rw [ih hrest]
        cases hv : kept.sameLine v with
        | false => simp [hv, hboth]
        | true => simp [dedupeSameLine, dedupeFrom, hv, hboth, hw, hrank]
      · rw [ih hskip]
        cases hv : kept.sameLine v with
        | false => simp [hv, hboth]
        | true => simp [dedupeSameLine, dedupeFrom, hv, hboth, hw, hrank]
    · rw [if_neg hw, List.filter_cons, List.filter_cons, ih hrest]
      split_ifs with hv
      · have hother : (w :: vs).filter (·.sameLine v) = [] := by
          refine List.filter_eq_nil_iff.2 fun x hx hxv => ?_
          have hne := not_sameLine_of_pairwise h (by simpa using hw) x hx
          rw [sameLine_congr hv, sameLine_comm, hxv] at hne
          cases hne
        rw [hother]
        rfl
      · rfl

/-- In the order of reports every line is treated by itself. -/
theorem filter_dedupeSameLine (h : vs.Pairwise (reportLE · ·)) (v : Violation) :
    (dedupeSameLine vs).filter (·.sameLine v) = dedupeSameLine (vs.filter (·.sameLine v)) := by
  cases vs with
  | nil => rfl
  | cons w vs => exact filter_dedupeFrom h v

/-- `kept` is to be left of the violations on the line of `v`. -/
structure IsLeft (vs : List Violation) (v kept : Violation) : Prop where
  sameLine : kept.sameLine v = true
  severest : ∀ w ∈ vs, w.sameLine v = true → kept.severity.atLeast w.severity = true
  lowest : ∀ w ∈ vs, w.sameLine v = true → w.severity = kept.severity → kept.rule ≤ w.rule
  first : ∃ before after, vs = before ++ kept :: after ∧
    ∀ w ∈ before, w.sameLine v = true → w.severity = kept.severity → w.rule ≠ kept.rule

theorem exists_isLeft (h : vs.Pairwise (reportLE · ·)) (hv : v ∈ vs) :
    ∃ kept, (dedupeSameLine vs).filter (·.sameLine v) = [kept] ∧ IsLeft vs v kept := by
  rw [filter_dedupeSameLine h]
  cases hline : vs.filter (·.sameLine v) with
  | nil => exact absurd (sameLine_self v) (List.filter_eq_nil_iff.1 hline v hv)
  | cons w run =>
    have hon : ∀ x ∈ w :: run, x.sameLine v = true := by
      intro x hx
      rw [← hline] at hx
      exact (List.mem_filter.1 hx).2
    have hrun : ∀ x ∈ run, w.sameLine x = true := by
      intro x hx
      rw [sameLine_congr (hon w (by simp)), sameLine_comm]
      exact hon x (by simp [hx])
    obtain ⟨before, top, after, heq, htop, hbefore, hafter⟩ := exists_dedupeFrom_eq hrun
    have htopline : top.sameLine v = true := hon top (by simp [heq])
    -- The violations on the line, cut at the one that is kept.
    have hcases : ∀ x ∈ vs, x.sameLine v = true → x ∈ before ∨ x = top ∨ x ∈ after := by
      intro x hx hxv
      have hmem : x ∈ before ++ top :: after := heq ▸ hline ▸ List.mem_filter.2 ⟨hx, hxv⟩
      simpa using hmem
    refine ⟨top, htop, htopline, fun x hx hxv => ?_, fun x hx hxv hsev => ?_, ?_⟩
    · rw [Severity.atLeast, decide_eq_true_eq]
      rcases hcases x hx hxv with hx | rfl | hx
      · exact Nat.le_of_lt (hbefore x hx)
      · exact Nat.le_refl _
      · exact hafter x hx
    · rcases hcases x hx hxv with hx | rfl | hx
      · have hlt := hbefore x hx
        rw [hsev] at hlt
        omega
      · exact String.le_refl _
      · have hsorted : (before ++ top :: after).Pairwise (reportLE · ·) := by
          rw [← heq, ← hline]
          exact h.filter _
        have hle := (List.pairwise_cons.1 (List.pairwise_append.1 hsorted).2.1).1 x hx
        refine rule_le_of_reportLE hle ?_
        rw [sameLine_congr htopline, sameLine_comm]
        exact hxv
    · obtain ⟨pre, rest, rfl, hpre, hrest⟩ := List.filter_eq_append_iff.1 (hline.trans heq)
      obtain ⟨mid, post, rfl, hmid, -, -⟩ := List.filter_eq_cons_iff.1 hrest
      refine ⟨pre ++ mid, post, by simp, fun x hx hxv hsev => ?_⟩
      rcases List.mem_append.1 hx with hx | hx
      · have hlt := hbefore x (hpre ▸ List.mem_filter.2 ⟨hx, hxv⟩)
        rw [hsev] at hlt
        omega
      · exact absurd hxv (hmid x hx)

theorem pairwise_dedupeSameLine (h : vs.Pairwise (reportLE · ·)) :
    (dedupeSameLine vs).Pairwise fun a b => a.sameLine b = false := by
  refine List.pairwise_iff_forall_sublist.2 fun {a b} hab => ?_
  rw [← Bool.not_eq_true]
  intro hsame
  have ha : a ∈ vs := (hab.trans (dedupeSameLine_sublist vs)).subset (by simp)
  obtain ⟨kept, hkept, -⟩ := exists_isLeft h ha
  -- Both would be left on the line of `a`.
  have hlen := (hab.filter (·.sameLine a)).length_le
  rw [hkept] at hlen
  simp [sameLine_self, sameLine_comm b, hsame] at hlen

end

/-- Of a list in the order of reports, on every line that occurs exactly one violation is left, in the order
they had: the most severe, and of several the one with the lowest rule, the first if there are more. A second
pass leaves all of them. -/
theorem dedupeSameLine_of_sorted {vs : List Violation} (h : vs.Pairwise fun a b => (a.reportOrder b).isLE = true) :
    (dedupeSameLine vs).Sublist vs ∧
      (∀ v ∈ vs, ∃ kept, (dedupeSameLine vs).filter (·.sameLine v) = [kept] ∧ IsLeft vs v kept) ∧
      dedupeSameLine (dedupeSameLine vs) = dedupeSameLine vs :=
  ⟨dedupeSameLine_sublist vs, fun _ hv => exists_isLeft h hv, dedupeSameLine_eq_self (pairwise_dedupeSameLine h)⟩

def errorOn (line : Nat) (rule description : String) : Violation :=
  ⟨rule, description, "a.cpp", line, "", .error, "", .naming⟩

/-- A warning and three errors on one line, and advice on the next. -/
def crowdedReport : List Violation :=
  [{ errorOn 1 "a" "" with severity := .warning }, errorOn 1 "b" "left", errorOn 1 "b" "", errorOn 1 "c" "",
    { errorOn 2 "a" "left" with severity := .info }]

theorem dedupeSameLine_crowdedReport :
    crowdedReport.Pairwise (fun a b => (a.reportOrder b).isLE = true) ∧
      IsLeft crowdedReport (errorOn 1 "c" "") (errorOn 1 "b" "left") ∧
      (dedupeSameLine crowdedReport).map Violation.description = ["left", "left"] := by
  have hsorted : crowdedReport.Pairwise (fun a b => (a.reportOrder b).isLE = true) := by decide +kernel
  have hmem : errorOn 1 "c" "" ∈ crowdedReport := by simp [crowdedReport]
  obtain ⟨kept, hkept, hleft⟩ := (dedupeSameLine_of_sorted hsorted).2.1 _ hmem
  have hline : (dedupeSameLine crowdedReport).filter (·.sameLine (errorOn 1 "c" "")) =
      [errorOn 1 "b" "left"] := by decide +kernel
  obtain rfl : errorOn 1 "b" "left" = kept := by simpa [hline] using hkept
  exact ⟨hsorted, hleft, by decide +kernel⟩

end Guideline
