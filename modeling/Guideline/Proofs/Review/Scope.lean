import Guideline.Proofs.Change.Scope
import Guideline.Proofs.Review.Isolation

/-!
# Reviews within a scope

A scope is asked twice: before a file is read, whether it covers the file, and after the allowed
violations are left out, about the line of each. Both together leave what filtering a review without
scope leaves (`reviewText_within`, `violations_review_within`): sorting is stable, so it does not
matter that the filter comes first, and a scope that contains a line of a file covers the file.
-/

namespace Guideline

open Change Violation

theorem Violation.sortForReport_filter (p : Violation → Bool) (vs : List Violation) :
    sortForReport (vs.filter p) = (sortForReport vs).filter p :=
  Collection.mergeSort_filter reportLE_trans reportLE_total p vs

namespace Change.ChangeScope

variable {scope : ChangeScope} {path : String}

/-- The violation is on a line of the scope, or a note on a file that the scope covers. -/
def admits (scope : ChangeScope) (path : String) (v : Violation) : Bool :=
  scope.contains path v.line ||
    (v.rule = unreadableFileId || v.rule = matcherFailureId) && scope.coversFile path

theorem admits_unscoped (path : String) (v : Violation) : unscoped.admits path v = true :=
  rfl

theorem admits_eq_false (h : scope.coversFile path = false) (v : Violation) :
    scope.admits path v = false := by
  have hline : scope.contains path v.line = false := by
    by_contra hline
    rw [Bool.not_eq_false] at hline
    rw [coversFile_iff.2 ⟨v.line, hline⟩] at h
    contradiction
  rw [admits, h, hline, Bool.and_false, Bool.or_false]

theorem admits_of_isNoteId (h : scope.coversFile path = true) {v : Violation}
    (hv : Reviewer.isNoteId v.rule = true) : scope.admits path v = true := by
  rw [Reviewer.isNoteId] at hv
  rw [admits, hv, h, Bool.and_true, Bool.or_true]

end Change.ChangeScope

open ChangeScope

namespace Reviewer

variable (r : Reviewer) (scope : ChangeScope) (tree : FileTree)

/-- The reviewer with another scope. -/
def within (r : Reviewer) (scope : ChangeScope) : Reviewer :=
  { r with scope }

theorem inScope_within (path : String) : (r.within scope).inScope path = scope.admits path := by
  funext v
  rw [inScope, admits]
  split_ifs with hnote
  · rw [isNoteId] at hnote
    rw [hnote, Bool.true_and]
    cases hline : scope.contains path v.line with
    | false => rfl
    | true => exact coversFile_iff.2 ⟨v.line, hline⟩
  · rw [Bool.not_eq_true, isNoteId] at hnote
    rw [hnote, Bool.false_and, Bool.or_false]
    rfl

/-! ### A file that is read -/

theorem fileViolations_within (file : CheckedFile) : (r.within scope).fileViolations file =
    ((r.within .unscoped).fileViolations file).filter (scope.admits file.path) := by
  have hall : (r.within .unscoped).fileViolations file = (r.allViolations file).filter fun v =>
      ((Allowances.scan file.source).check? v.line v.rule).isNone := by
    rw [fileViolations, inScope_within]
    exact List.filter_eq_self.2 fun v _ => admits_unscoped file.path v
  rw [hall, fileViolations, inScope_within]
  rfl

theorem reviewText_within (path : String) (kind : FileKind) (content : List Char) :
    (r.within scope).reviewText path kind content =
      ((r.within .unscoped).reviewText path kind content).filter (scope.admits path) := by
  rw [reviewText, fileViolations_within, sortForReport_filter]
  rfl

/-! ### A file by its path -/

theorem isNoteId_of_mem_note {file : CheckedFile} {id reason : String} {v : Violation}
    (hid : isNoteId id = true) (h : v ∈ r.note file id reason) : isNoteId v.rule = true := by
  obtain ⟨rule, hfind, rfl⟩ := mem_note.1 h
  have hrule : rule.id = id := by simpa using List.find?_some hfind
  rw [Finding.violation, hrule]
  exact hid

theorem reviewFile_within {path : String} (hcovers : scope.coversFile path = true) (kind : FileKind) :
    (r.within scope).reviewFile tree path kind =
      ((r.within .unscoped).reviewFile tree path kind).filter (scope.admits path) := by
  simp only [reviewFile]
  cases readSource tree path with
  | ok content => exact r.reviewText_within scope path kind content
  | error reason =>
    -- The note does not ask the scope, which covers the file.
    refine (List.filter_eq_self.2 fun v hv => admits_of_isNoteId hcovers ?_).symm
    exact (r.within .unscoped).isNoteId_of_mem_note (by decide) hv

theorem select?_within (path : String) : (r.within scope).select? path =
    if scope.coversFile path then (r.within .unscoped).select? path else none := by
  have hclassify : ∀ scope : ChangeScope, (r.within scope).select? path =
      (r.settings.classify path).bind fun kind =>
        if r.isExcluded path || !scope.coversFile path then none else some kind := by
    intro scope
    rw [select?]
    cases hkind : r.settings.classify path <;> rw [within, hkind] <;> rfl
  rw [hclassify, hclassify]
  cases r.settings.classify path with
  | none => exact (ite_self none).symm
  | some kind => cases scope.coversFile path <;> simp [coversFile]

theorem found_within (path : String) : (r.within scope).found tree path =
    ((r.within .unscoped).found tree path).filter (scope.admits path) := by
  rw [found, found, select?_within]
  split_ifs with hcovers
  · cases (r.within .unscoped).select? path with
    | none => rfl
    | some kind => exact r.reviewFile_within scope tree hcovers kind
  · rw [Bool.not_eq_true] at hcovers
    exact (List.filter_eq_nil_iff.2 fun v _ => by simp [admits_eq_false hcovers v]).symm

theorem violations_review_within (hdedupe : r.settings.dedupeSameLine = false) (path : String) :
    ((r.within scope).review tree [path]).violations =
      ((r.within .unscoped).review tree [path]).violations.filter (scope.admits path) := by
  have hsettle : ∀ scope vs, (r.within scope).settle vs = vs := fun scope vs =>
    if_neg (by simp [within, hdedupe])
  rw [violations_review_singleton, violations_review_singleton, hsettle, hsettle, found_within,
    sortForReport_filter]

theorem review_of_select?_eq_none {path : String} (h : r.select? path = none)
    (before after : List String) :
    r.review tree (before ++ path :: after) = r.review tree (before ++ after) := by
  simp only [review, List.filterMap_append, List.filterMap_cons, h, Option.map_none]

/-- Restricting a review of a file to a scope is leaving out of the review without scope what is
neither on a line of the scope nor a note on a covered file. So a file of which the scope selects no
line takes no part in a review. -/
theorem review_within_eq_filter (path : String) :
    (∀ kind content, (r.within scope).reviewText path kind content =
      ((r.within .unscoped).reviewText path kind content).filter fun v =>
        scope.contains path v.line ||
          (v.rule = unreadableFileId || v.rule = matcherFailureId) && scope.coversFile path) ∧
    (r.settings.dedupeSameLine = false → ((r.within scope).review tree [path]).violations =
      ((r.within .unscoped).review tree [path]).violations.filter fun v =>
        scope.contains path v.line ||
          (v.rule = unreadableFileId || v.rule = matcherFailureId) && scope.coversFile path) ∧
    ((∀ line, scope.contains path line = false) →
      (∀ kind content, (r.within scope).reviewText path kind content = []) ∧
      ∀ before after, (r.within scope).review tree (before ++ path :: after) =
        (r.within scope).review tree (before ++ after)) := by
  refine ⟨r.reviewText_within scope path, fun h => r.violations_review_within scope tree h path,
    fun hnone => ?_⟩
  have hcovers : scope.coversFile path = false := by
    rw [← Bool.not_eq_true, coversFile_iff]
    simp [hnone]
  refine ⟨fun kind content => ?_, (r.within scope).review_of_select?_eq_none tree ?_⟩
  · rw [reviewText_within]
    exact List.filter_eq_nil_iff.2 fun v _ => by simp [admits_eq_false hcovers v]
  · rw [select?_within, hcovers]
    rfl

/-- The scope of a file that is not there leaves its note, and a file without lines in the scope takes
no part. -/
theorem review_within_blankTree :
    let r : Reviewer := { trailingReviewer with settings := {} }
    let scope : ChangeScope := .ofLines [("b.h", []), ("c.h", [7])]
    r.settings.dedupeSameLine = false ∧ (∀ line, scope.contains "b.h" line = false) ∧
    ((r.within scope).review blankTree ["c.h"]).violations.map Violation.rule = [unreadableFileId] ∧
    (r.within scope).review blankTree ["b.h", "c.h"] = (r.within scope).review blankTree ["c.h"] := by
  intro r scope
  have hnone : ∀ line, scope.contains "b.h" line = false := fun _ => rfl
  obtain ⟨-, hfilter, -⟩ := review_within_eq_filter r scope blankTree "c.h"
  obtain ⟨-, -, hskip⟩ := review_within_eq_filter r scope blankTree "b.h"
  refine ⟨rfl, hnone, ?_, (hskip hnone).2 [] ["c.h"]⟩
  rw [hfilter rfl]
  decide +kernel

end Reviewer

end Guideline
