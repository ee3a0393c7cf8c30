import Guideline.Proofs.Report.Group
import Guideline.Proofs.Review.Isolation
import Guideline.Report.Markdown

/-!
# What a review comment lists

The block with the violations has a section for each of the first files, and each section the first
violations of its file, the most severe before the others. `Accounts` says what is listed and what is only
counted; no violation that is only counted is more severe than one that its section lists
(`detailsLines_accounts`).
-/

namespace Guideline.Report

open Violation

/-- The order in a section: the more severe first, those of one severity in the order of reports. -/
def ListedBefore (v w : Violation) : Prop :=
  w.severity.rank < v.severity.rank ∨ v.severity = w.severity ∧ (v.reportOrder w).isLE = true

/-- A section lists ten of the violations of its file, or all if there are fewer; those that are left out are
no more severe. -/
structure Lists (all listed : List Violation) : Prop where
  count : listed.length = min 10 all.length
  left : ∃ left, (listed ++ left).Perm all ∧ (listed ++ left).Pairwise ListedBefore ∧
    ∀ v ∈ listed, ∀ w ∈ left, w.severity.rank ≤ v.severity.rank

/-- The lines of a block with violations, where `listed` has what the section of each file lists. A violation
is listed by a disc in the colour of its severity, its line, rule and description, and its suggestion on a line
of its own if it has one. -/
structure Accounts (vs : List Violation) (files : List String) (listed : String → List Violation)
    (lines : List String) : Prop where
  ascending : files.Pairwise fun a b => compare a b = .lt
  mem_files : ∀ file, file ∈ files ↔ ∃ v ∈ vs, v.filePath = file
  lists : ∀ file ∈ files, Lists (vs.filter (·.filePath = file)) (listed file)
  layout : lines =
    ["<details>", s!"<summary>Issues found ({vs.length})</summary>", ""]
      ++ (files.take (min 5 files.length)).flatMap (fun file =>
        let count := (vs.filter (·.filePath = file)).length
        [s!"#### 📁 `{file}`", ""]
          ++ (listed file).flatMap (fun v =>
            let disc := match v.severity with
              | .error => "🔴"
              | .warning => "🟡"
              | .info => "🔵"
            s!"- {disc} **Line {v.line}** `{v.rule}`: {v.description}"
              :: (if v.suggestion = "" then [] else [s!"  - 💡 *{v.suggestion}*"]))
          ++ (if 10 < count then [s!"- ... and {count - 10} more issues in this file"] else []) ++ [""])
      ++ (if 5 < files.length then [s!"... and {files.length - 5} more files", ""] else [])
      ++ ["</details>"]

/-! ### The order of a section -/

theorem rank_injective : Function.Injective Severity.rank := by
  intro s t h
  cases s <;> cases t <;> first | rfl | cases h

section

variable {vs : List Violation}

theorem pairwise_mostSevereFirst (hsorted : vs.Pairwise (reportLE · ·)) :
    (mostSevereFirst vs).Pairwise ListedBefore := by
  let le : Violation → Violation → Bool := fun a b => b.severity.rank ≤ a.severity.rank
  have htrans : ∀ a b c, le a b = true → le b c = true → le a c = true := by
    simp only [le, decide_eq_true_eq]
    omega
  have htotal : ∀ a b, (le a b || le b a) = true := by
    simp only [le, Bool.or_eq_true, decide_eq_true_eq]
    omega
  refine List.pairwise_iff_forall_sublist.2 fun {v w} hvw => ?_
  have hrank : w.severity.rank ≤ v.severity.rank := by
    have hle := List.pairwise_iff_forall_sublist.1 (List.pairwise_mergeSort htrans htotal vs) hvw
    simpa [le] using hle
  rcases Nat.lt_or_eq_of_le hrank with hlt | heq
  · exact .inl hlt
  · -- violations of one severity keep their order
    have htied : (vs.filter (Collection.tied le v)).Pairwise (reportLE · ·) :=
      hsorted.sublist List.filter_sublist
    rw [← Collection.filter_tied_mergeSort htrans htotal, List.pairwise_filter] at htied
    have hle := List.pairwise_iff_forall_sublist.1 htied hvw (by simp [Collection.tied, le])
      (by simp [Collection.tied, le, heq])
    exact .inr ⟨rank_injective heq.symm, hle⟩

theorem lists_take (hsorted : vs.Pairwise (reportLE · ·)) :
    Lists vs ((mostSevereFirst vs).take violationLimit) := by
  have hperm : (mostSevereFirst vs).Perm vs := List.mergeSort_perm ..
  have hpairwise := pairwise_mostSevereFirst hsorted
  have hlength := hperm.length_eq
  rw [← List.take_append_drop violationLimit (mostSevereFirst vs)] at hperm hpairwise
  refine ⟨?_, (mostSevereFirst vs).drop violationLimit, hperm, hpairwise, fun v hv w hw => ?_⟩
  · rw [List.length_take, hlength]
    rfl
  · rcases (List.pairwise_append.1 hpairwise).2.2 v hv w hw with h | h
    · exact Nat.le_of_lt h
    · rw [h.1]

end

/-! ### The layout of the block -/

theorem ite_sub_eq_zero {α : Type} (n k : Nat) (a b : α) :
    (if n - k = 0 then a else b) = if k < n then b else a := by
  split_ifs <;> first | rfl | omega

theorem entryLines_eq : entryLines = fun v =>
    s!"- {icon v.severity} **Line {v.line}** `{v.rule}`: {v.description}"
      :: (if v.suggestion = "" then [] else [s!"  - 💡 *{v.suggestion}*"]) := by
  funext v
  simp only [entryLines, String.isEmpty_iff]

theorem sectionLines_eq (file : String) (all : List Violation) : sectionLines (file, all) =
    [s!"#### 📁 `{file}`", ""] ++ ((mostSevereFirst all).take violationLimit).flatMap entryLines
      ++ (if 10 < all.length then [s!"- ... and {all.length - 10} more issues in this file"] else [])
      ++ [""] := by
  rw [sectionLines, ite_sub_eq_zero]
  rfl

theorem detailsLines_eq {r : ReviewResult} (hsorted : r.violations.Pairwise (reportLE · ·)) :
    let files := (groupByFile r.violations).map Prod.fst
    detailsLines r =
      ["<details>", s!"<summary>Issues found ({r.violations.length})</summary>", ""]
        ++ (files.take (min 5 files.length)).flatMap
          (fun file => sectionLines (file, r.violations.filter (·.filePath = file)))
        ++ (if 5 < files.length then [s!"... and {files.length - 5} more files", ""] else [])
        ++ ["</details>"] := by
  intro files
  have hgroups : groupByFile r.violations =
      files.map fun file => (file, r.violations.filter (·.filePath = file)) := groupByFile_eq_map hsorted
  rw [detailsLines, ite_sub_eq_zero, ReviewResult.summary, Reviewer.total_ofViolations, hgroups,
    List.length_map, ← List.map_take, List.flatMap_map, ← List.take_eq_take_min]
  rfl

/-- The block of a report in order has a section for each of the first five files, with the ten most severe
violations of the file, and counts all that it leaves out. -/
theorem detailsLines_accounts {r : ReviewResult} (hne : r.violations ≠ [])
    (hsorted : r.violations.Pairwise fun a b => (a.reportOrder b).isLE = true) :
    (∃ files listed, Accounts r.violations files listed (detailsLines r)) ∧
      ∃ before after, renderMarkdown r = ofLines (before ++ detailsLines r ++ after) := by
  refine ⟨⟨(groupByFile r.violations).map Prod.fst,
    fun file => (mostSevereFirst (r.violations.filter (·.filePath = file))).take violationLimit,
    pairwise_groupByFile hsorted, fun file => mem_map_fst_groupByFile, fun file _ => ?_, ?_⟩, ?_⟩
  · exact lists_take (hsorted.sublist List.filter_sublist)
  · rw [detailsLines_eq hsorted]
    simp only [sectionLines_eq, entryLines_eq]
    rfl
  · rw [renderMarkdown, if_neg (by simpa using hne)]
    exact ⟨_, _, congrArg ofLines (List.append_assoc ..)⟩

def noteOn (file : String) (line : Nat) (severity : Severity) : Violation :=
  ⟨"r", "d", file, line, "", severity, "s", .naming⟩

/-- Eleven notes and an error in one file, and warnings in five more. -/
def crowdedResult : ReviewResult where
  violations := (List.range 11).map (noteOn "a" · .info) ++ noteOn "a" 11 .error
    :: ["b", "c", "d", "e", "f"].map (noteOn · 0 .warning)
  files := 6

/-- The error is listed, although all the notes stand before it. -/
theorem detailsLines_crowdedResult :
    crowdedResult.violations ≠ [] ∧
      crowdedResult.violations.Pairwise (fun a b => (a.reportOrder b).isLE = true) ∧
      (∃ files listed, Accounts crowdedResult.violations files listed (detailsLines crowdedResult) ∧
        files = ["a", "b", "c", "d", "e", "f"] ∧ (listed "a").length = 10) ∧
      ["- 🔴 **Line 11** `r`: d", "  - 💡 *s*", "- ... and 2 more issues in this file",
        "... and 1 more files"] ⊆ detailsLines crowdedResult := by
  have hne : crowdedResult.violations ≠ [] := by decide +kernel
  have hsorted : crowdedResult.violations.Pairwise fun a b => (a.reportOrder b).isLE = true := by
    decide +kernel
  have hcount : (crowdedResult.violations.filter (·.filePath = "a")).length = 12 := by decide +kernel
  have herror : (crowdedResult.violations.filter (·.filePath = "a")).countP (·.severity = .error) = 1 := by
    decide +kernel
  obtain ⟨⟨files, listed, h⟩, -⟩ := detailsLines_accounts hne hsorted
  obtain rfl : files = ["a", "b", "c", "d", "e", "f"] := by
    have hnodup : files.Nodup := h.ascending.imp Collection.ne_of_compare_lt
    have hperm : files.Perm ["a", "b", "c", "d", "e", "f"] := by
      refine (List.perm_ext_iff_of_nodup hnodup (by decide)).2 fun file => ?_
      rw [h.mem_files]
      constructor
      · rintro ⟨v, hv, rfl⟩
        revert v
        decide +kernel
      · revert file
        decide +kernel
    refine hperm.eq_of_pairwise (fun a b _ _ hlt hgt => ?_) h.ascending (by decide +kernel)
    rw [Std.OrientedCmp.gt_of_lt hlt] at hgt
    cases hgt
  obtain ⟨hlength, left, hperm, -, hleft⟩ := h.lists "a" (by simp)
  rw [hcount] at hlength
  have hlisted : noteOn "a" 11 .error ∈ listed "a" := by
    have hmem : noteOn "a" 11 .error ∈ listed "a" ++ left := hperm.mem_iff.2 (by decide +kernel)
    rcases List.mem_append.1 hmem with hmem | hmem
    · exact hmem
    · -- there would be ten more errors
      have hall : ∀ v ∈ listed "a", v.severity = .error := by
        intro v hv
        have hle : Severity.rank .error ≤ v.severity.rank := hleft v hv _ hmem
        revert hle
        cases v.severity <;> decide
      have hten := hperm.countP_eq fun v => decide (v.severity = .error)
      rw [List.countP_append, List.countP_eq_length.2 (by simpa using hall), herror] at hten
      omega
  refine ⟨hne, hsorted, ⟨_, listed, h, rfl, hlength⟩, ?_⟩
  rw [h.layout]
  simp only [List.cons_subset, List.nil_subset, and_true, List.mem_append, List.mem_flatMap]
  refine ⟨?_, ?_, ?_, ?_⟩
  · exact .inl (.inl (.inr ⟨"a", by simp, .inl (.inl (.inr ⟨_, hlisted, by decide +kernel⟩))⟩))
  · exact .inl (.inl (.inr ⟨"a", by simp, .inl (.inl (.inr ⟨_, hlisted, by decide +kernel⟩))⟩))
  · refine .inl (.inl (.inr ⟨"a", by simp, .inl (.inr ?_)⟩))
    rw [hcount]
    decide +kernel
  · exact .inl (.inr (by decide +kernel))

end Guideline.Report
