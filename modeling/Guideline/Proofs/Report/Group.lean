import Guideline.Proofs.Review.Order
import Guideline.Report.Group
import Mathlib.Data.List.Nodup

/-!
# Runs of violations in one file

The runs join to the list again (`flatMap_groupByFile`), each holds violations of its own file
(`of_mem_groupByFile`), and neighbours are of different files (`isChain_groupByFile`). In the order of
reports no file comes twice, so there is one run for each file, with all its violations
(`groupByFile_eq_map`). `groupByFile_partition` puts this together.
-/

namespace Guideline

namespace Report

open Violation

theorem flatMap_groupByFile (vs : List Violation) : (groupByFile vs).flatMap Prod.snd = vs := by
  induction vs with
  | nil => rfl
  | cons v vs ih =>
    rw [groupByFile]
    split
    · rename_i h
      rw [h] at ih
      simpa using ih
    · rename_i h
      rw [h] at ih
      split_ifs <;> simpa using ih

/-- A run is not empty and has the violations of its file. -/
theorem of_mem_groupByFile {vs : List Violation} {e : String × List Violation} (he : e ∈ groupByFile vs) :
    e.2 ≠ [] ∧ ∀ v ∈ e.2, v.filePath = e.1 := by
  induction vs generalizing e with
  | nil => cases he
  | cons v vs ih =>
    rw [groupByFile] at he
    split at he
    · rw [List.mem_singleton.1 he]
      simp
    · rename_i path group more h
      rw [h] at ih
      split_ifs at he with hpath
      · rcases List.mem_cons.1 he with rfl | he
        · refine ⟨by simp, List.forall_mem_cons.2 ⟨hpath, ?_⟩⟩
          exact (ih List.mem_cons_self).2
        · exact ih (List.mem_cons_of_mem _ he)
      · rcases List.mem_cons.1 he with rfl | he
        · simp
        · exact ih he

theorem isChain_groupByFile (vs : List Violation) :
    ((groupByFile vs).map Prod.fst).IsChain (· ≠ ·) := by
  induction vs with
  | nil => exact .nil
  | cons v vs ih =>
    rw [groupByFile]
    split
    · exact .singleton _
    · rename_i path group more h
      rw [h] at ih
      split_ifs with hpath
      · exact ih
      · exact .cons_cons hpath ih

theorem map_fst_groupByFile_sublist (vs : List Violation) :
    ((groupByFile vs).map Prod.fst).Sublist (vs.map filePath) := by
  induction vs with
  | nil => exact .slnil
  | cons v vs ih =>
    rw [groupByFile]
    split
    · simp
    · rename_i path group more h
      rw [h] at ih
      split_ifs
      · exact ih.cons _
      · exact ih.cons_cons _

theorem mem_map_fst_groupByFile {vs : List Violation} {file : String} :
    file ∈ (groupByFile vs).map Prod.fst ↔ ∃ v ∈ vs, v.filePath = file := by
  constructor
  · intro h
    obtain ⟨v, hv, rfl⟩ := List.mem_map.1 ((map_fst_groupByFile_sublist vs).mem h)
    exact ⟨v, hv, rfl⟩
  · rintro ⟨v, hv, rfl⟩
    rw [← flatMap_groupByFile vs] at hv
    obtain ⟨e, he, hv⟩ := List.mem_flatMap.1 hv
    rw [(of_mem_groupByFile he).2 v hv]
    exact List.mem_map_of_mem he

section Sorted

variable {vs : List Violation} (hsorted : vs.Pairwise (reportLE · ·))

include hsorted

/-- In the order of reports the files of the runs ascend. -/
theorem pairwise_groupByFile :
    ((groupByFile vs).map Prod.fst).Pairwise (fun a b => compare a b = .lt) := by
  have hle : ((groupByFile vs).map Prod.fst).Pairwise (fun a b => (compare a b).isLE = true) := by
    refine List.Pairwise.sublist (map_fst_groupByFile_sublist vs) (List.pairwise_map.2 (hsorted.imp ?_))
    intro a b hab
    rw [reportLE, reportOrder] at hab
    cases hfile : compare a.filePath b.filePath <;> simp_all
  exact Collection.pairwise_lt_of_isChain_ne (isChain_groupByFile vs) hle

/-- In the order of reports the run of a file has all violations of the file. -/
theorem groupByFile_eq_map : groupByFile vs =
    ((groupByFile vs).map Prod.fst).map fun file => (file, vs.filter (·.filePath = file)) := by
  have hnodup : ((groupByFile vs).map Prod.fst).Nodup :=
    (pairwise_groupByFile hsorted).imp Collection.ne_of_compare_lt
  have hrun : ∀ e ∈ groupByFile vs, vs.filter (·.filePath = e.1) = e.2 := by
    intro e he
    rw [← Collection.flatMap_key_eq hnodup he]
    nth_rewrite 1 [← flatMap_groupByFile vs]
    rw [List.filter_flatMap]
    refine List.flatMap_congr fun e' he' => ?_
    have hfile := (of_mem_groupByFile he').2
    split_ifs with heq
    · exact List.filter_eq_self.2 fun v hv => decide_eq_true ((hfile v hv).trans heq)
    · exact List.filter_eq_nil_iff.2 fun v hv => by simpa [hfile v hv] using heq
  rw [List.map_map, List.map_congr_left (g := id), List.map_id]
  intro e he
  exact Prod.ext rfl (hrun e he)

end Sorted

/-- Grouping cuts a list into the runs of violations in one file; in the order of reports each file has
one run, and the files ascend. -/
theorem groupByFile_partition (vs : List Violation) :
    (groupByFile vs).flatMap Prod.snd = vs ∧
    (∀ e ∈ groupByFile vs, e.2 ≠ [] ∧ ∀ v ∈ e.2, v.filePath = e.1) ∧
    ((groupByFile vs).map Prod.fst).IsChain (· ≠ ·) ∧
    (vs.Pairwise (fun a b => (a.reportOrder b).isLE = true) →
      (∀ v ∈ vs, ((groupByFile vs).map Prod.fst).count v.filePath = 1) ∧
      ((groupByFile vs).map Prod.fst).Pairwise (fun a b => compare a b = .lt)) := by
  refine ⟨flatMap_groupByFile vs, fun e => of_mem_groupByFile, isChain_groupByFile vs, fun hsorted => ?_⟩
  have hascending := pairwise_groupByFile hsorted
  have hnodup : ((groupByFile vs).map Prod.fst).Nodup := hascending.imp Collection.ne_of_compare_lt
  refine ⟨fun v hv => ?_, hascending⟩
  have hmem : v.filePath ∈ (groupByFile vs).map Prod.fst := mem_map_fst_groupByFile.2 ⟨v, hv, rfl⟩
  exact List.count_eq_one_of_mem hnodup hmem

/-- Violations in two files, in the order of reports. -/
def inTwoFiles : List Violation :=
  [("a.cpp", 2), ("a.cpp", 7), ("b.cpp", 1)].map fun e =>
    { rule := "tabs", description := "", filePath := e.1, line := e.2, lineContent := "",
      severity := .info, suggestion := "", category := .formatting }

theorem groupByFile_inTwoFiles :
    inTwoFiles.Pairwise (fun a b => (a.reportOrder b).isLE = true) ∧
    (∀ v ∈ inTwoFiles, ((groupByFile inTwoFiles).map Prod.fst).count v.filePath = 1) ∧
    ((groupByFile inTwoFiles).map Prod.fst).Pairwise (fun a b => compare a b = .lt) := by
  have hsorted : inTwoFiles.Pairwise (fun a b => (a.reportOrder b).isLE = true) := by decide +kernel
  exact ⟨hsorted, (groupByFile_partition inTwoFiles).2.2.2 hsorted⟩

end Report

end Guideline
