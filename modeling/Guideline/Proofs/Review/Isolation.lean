import Guideline.Proofs.Review.Origin
import Guideline.Proofs.Text.ByteOrder
import Mathlib.Algebra.BigOperators.Group.List.Basic
import Mathlib.Algebra.GroupWithZero.Nat

/-!
# Reviews of several files

What a review finds in a file carries the path of that file (`filePath_of_mem_reviewFile`), so a review of
files with different displayed paths is the reviews of each, in the order of these paths.
-/

namespace Guideline

open Collection Violation

namespace Reviewer

variable (r : Reviewer) (tree : FileTree)

/-- What is found in the file at a path, nothing if it is not to be reviewed. -/
def found (path : String) : List Violation :=
  match r.select? path with
  | some kind => r.reviewFile tree path kind
  | none => []

/-- What is left of violations on one line. -/
def settle (vs : List Violation) : List Violation :=
  if r.settings.dedupeSameLine then dedupeSameLine vs else vs

theorem violations_review (paths : List String) :
    (r.review tree paths).violations = r.settle (sortForReport (paths.flatMap (r.found tree))) := by
  have hfound : (paths.filterMap fun path => (r.select? path).map (path, ·)).flatMap
      (fun selected => r.reviewFile tree selected.1 selected.2) = paths.flatMap (r.found tree) := by
    induction paths with
    | nil => rfl
    | cons p paths ih =>
      cases hp : r.select? p with
      | none => simp [hp, found, ih]
      | some kind => simp [hp, found, ih]
  rw [← hfound]
  rfl

theorem violations_review_singleton (path : String) :
    (r.review tree [path]).violations = r.settle (sortForReport (r.found tree path)) := by
  rw [violations_review, List.flatMap_singleton]

theorem files_review (paths : List String) :
    (r.review tree paths).files = (paths.map fun p => (r.review tree [p]).files).sum := by
  induction paths with
  | nil => rfl
  | cons p paths ih =>
    rw [List.map_cons, List.sum_cons, ← ih]
    cases hp : r.select? p with
    | none => simp [review, hp]
    | some kind => simp [review, hp, Nat.add_comm]

/-! ### The file of a violation -/

theorem filePath_of_mem_reviewFile {path : String} {kind : FileKind} {v : Violation}
    (h : v ∈ r.reviewFile tree path kind) : v.filePath = Path.display path := by
  unfold reviewFile at h
  cases hread : readSource tree path with
  | ok content =>
    rw [hread] at h
    obtain ⟨rule, f, rfl, -⟩ := finds_or_notes (mem_allViolations_of_mem_reviewText h)
    rfl
  | error reason =>
    rw [hread] at h
    obtain ⟨rule, -, rfl⟩ := mem_note.1 h
    rfl

theorem inOwnFile_found : InOwnFile Path.display (r.found tree) := by
  intro path v hv
  unfold found at hv
  cases hsel : r.select? path with
  | some kind =>
    rw [hsel] at hv
    exact r.filePath_of_mem_reviewFile tree hv
  | none =>
    rw [hsel] at hv
    simp at hv

/-! ### Several files -/

/-- The files are listed by ascending displayed path. -/
def Ascending (paths : List String) : Prop :=
  paths.Pairwise fun p q => compare (Path.display p) (Path.display q) = .lt

theorem exists_ascending {paths : List String} (h : (paths.map Path.display).Nodup) :
    ∃ sorted : List String, sorted.Perm paths ∧ Ascending sorted := by
  let le := fun p q => (compare (Path.display p) (Path.display q)).isLE
  have htrans : ∀ p q s, le p q = true → le q s = true → le p s = true :=
    fun _ _ _ hpq hqs => Std.TransCmp.isLE_trans hpq hqs
  have htotal : ∀ p q, (le p q || le q p) = true :=
    fun p q => isLE_total compare (Path.display p) (Path.display q)
  have hperm := List.mergeSort_perm paths le
  have hne := List.pairwise_map.1 ((hperm.map Path.display).nodup_iff.2 h)
  refine ⟨paths.mergeSort le, hperm, ?_⟩
  refine ((List.pairwise_mergeSort htrans htotal paths).and hne).imp fun {p q} hpq => ?_
  obtain ⟨hle, hne⟩ := hpq
  rcases Ordering.isLE_iff_eq_lt_or_eq_eq.1 hle with hlt | heq
  · exact hlt
  · exact absurd (Std.LawfulEqCmp.eq_of_compare heq) hne

theorem Ascending.ne {paths : List String} (h : Ascending paths) :
    paths.Pairwise fun p q => Path.display p ≠ Path.display q :=
  h.imp ne_of_compare_lt

/-- A review of files is the reviews of each, in the order of their displayed paths. -/
theorem violations_review_eq_flatMap {paths sorted : List String} (hperm : sorted.Perm paths)
    (hsorted : Ascending sorted) : (r.review tree paths).violations =
      sorted.flatMap fun p => (r.review tree [p]).violations := by
  have hown := r.inOwnFile_found tree
  have hown' : InOwnFile Path.display fun p => sortForReport (r.found tree p) :=
    fun p v hv => hown p v (mem_sortForReport.1 hv)
  simp only [violations_review_singleton]
  rw [violations_review, sortForReport_flatMap hown hperm hsorted]
  unfold settle
  split_ifs
  · exact dedupeSameLine_flatMap hown' hsorted.ne
  · rfl

theorem filePath_of_mem_review {path : String} {v : Violation}
    (h : v ∈ (r.review tree [path]).violations) : v.filePath = Path.display path := by
  rw [violations_review_singleton, settle] at h
  refine r.inOwnFile_found tree path v (mem_sortForReport.1 ?_)
  split_ifs at h
  · exact (dedupeSameLine_sublist _).subset h
  · exact h

/-- What a review reports for one of its files is the review of this file. -/
theorem filter_violations_review {paths : List String} (h : (paths.map Path.display).Nodup)
    {path : String} (hp : path ∈ paths) :
    (r.review tree paths).violations.filter (·.filePath = Path.display path) =
      (r.review tree [path]).violations := by
  obtain ⟨sorted, hperm, hsorted⟩ := exists_ascending h
  have hself : ((r.review tree [path]).violations.filter (·.filePath = Path.display path)) =
      (r.review tree [path]).violations :=
    List.filter_eq_self.2 fun v hv => by simp [r.filePath_of_mem_review tree hv]
  have hother : ∀ q, Path.display q ≠ Path.display path →
      (r.review tree [q]).violations.filter (·.filePath = Path.display path) = [] := by
    intro q hq
    refine List.filter_eq_nil_iff.2 fun v hv => ?_
    rw [r.filePath_of_mem_review tree hv]
    simpa using hq
  obtain ⟨l₁, l₂, rfl⟩ := List.append_of_mem (hperm.mem_iff.2 hp)
  obtain ⟨-, hl₂, hcross⟩ := List.pairwise_append.1 hsorted.ne
  have h₁ : ∀ q ∈ l₁, (r.review tree [q]).violations.filter (·.filePath = Path.display path) = [] :=
    fun q hq => hother q (hcross q hq path (by simp))
  have h₂ : ∀ q ∈ l₂, (r.review tree [q]).violations.filter (·.filePath = Path.display path) = [] :=
    fun q hq => hother q ((List.pairwise_cons.1 hl₂).1 q hq).symm
  rw [r.violations_review_eq_flatMap tree hperm hsorted, List.filter_flatMap, List.flatMap_append,
    List.flatMap_cons, hself, List.flatMap_eq_nil_iff.2 h₁, List.flatMap_eq_nil_iff.2 h₂,
    List.nil_append, List.append_nil]

/-- A review of a file sees nothing of the tree but the text of the file. -/
theorem violations_review_congr {tree tree' : FileTree} {path : String}
    (h : readSource tree' path = readSource tree path) :
    (r.review tree' [path]).violations = (r.review tree [path]).violations := by
  rw [violations_review_singleton, violations_review_singleton, found, found]
  simp only [reviewFile, h]

theorem countP_review (p : Violation → Bool) {paths : List String}
    (h : (paths.map Path.display).Nodup) : (r.review tree paths).violations.countP p =
      (paths.map fun path => (r.review tree [path]).violations.countP p).sum := by
  obtain ⟨sorted, hperm, hsorted⟩ := exists_ascending h
  rw [r.violations_review_eq_flatMap tree hperm hsorted, List.countP_flatMap]
  exact (hperm.map _).sum_eq

theorem total_ofViolations (vs : List Violation) : (Summary.ofViolations vs).total = vs.length := by
  induction vs with
  | nil => rfl
  | cons v vs ih =>
    simp only [Summary.total, Summary.ofViolations, List.countP_cons, List.length_cons] at ih ⊢
    cases hv : v.severity <;> simp <;> omega

/-- A review of files with different displayed paths puts the reviews of each together, in ascending
order of the bytes of these paths, and its counts are the sums of theirs. So the order of the files
does not matter, and what is reported for a file depends on no other file. -/
theorem review_of_nodup_display (paths : List String) (h : (paths.map Path.display).Nodup) :
    (∃ sorted : List String, sorted.Perm paths ∧
      (sorted.Pairwise fun p q =>
        Text.encode (Path.display p).toList < Text.encode (Path.display q).toList) ∧
      (r.review tree paths).violations = sorted.flatMap fun p => (r.review tree [p]).violations) ∧
    (r.review tree paths).files = (paths.map fun p => (r.review tree [p]).files).sum ∧
    (∀ count ∈ [Summary.errors, Summary.warnings, Summary.infos, Summary.total],
      count (r.review tree paths).summary =
        (paths.map fun p => count (r.review tree [p]).summary).sum) ∧
    (∀ paths', paths'.Perm paths → r.review tree paths' = r.review tree paths) ∧
    ∀ tree' paths', (paths'.map Path.display).Nodup → ∀ p ∈ paths, p ∈ paths' →
      readSource tree' p = readSource tree p →
      (r.review tree' paths').violations.filter (·.filePath = Path.display p) =
        (r.review tree paths).violations.filter (·.filePath = Path.display p) := by
  obtain ⟨sorted, hperm, hsorted⟩ := exists_ascending h
  have heq := r.violations_review_eq_flatMap tree hperm hsorted
  refine ⟨⟨sorted, hperm, hsorted.imp fun hlt => Text.encode_lt_of_compare hlt, heq⟩,
    r.files_review tree paths, ?_, fun paths' hperm' => ?_, fun tree' paths' h' p hp hp' hread => ?_⟩
  · simp only [List.forall_mem_cons, List.not_mem_nil, false_imp_iff, implies_true, and_true]
    refine ⟨r.countP_review tree _ h, r.countP_review tree _ h, r.countP_review tree _ h, ?_⟩
    simp only [ReviewResult.summary, total_ofViolations, ← List.countP_true]
    exact r.countP_review tree _ h
  · have hviolations : (r.review tree paths').violations = (r.review tree paths).violations := by
      rw [heq]
      exact r.violations_review_eq_flatMap tree (hperm.trans hperm'.symm) hsorted
    have hfiles : (r.review tree paths').files = (r.review tree paths).files := by
      rw [files_review, r.files_review tree paths]
      exact (hperm'.map _).sum_eq
    exact ReviewResult.ext hviolations hfiles
  · rw [r.filter_violations_review tree h hp, r.filter_violations_review tree' h' hp']
    exact r.violations_review_congr hread

/-- A reviewer that looks for white space at the ends of lines and keeps one violation a line. -/
def trailingReviewer : Reviewer where
  rules := ⟨[
    ⟨"trailing_whitespace", .formatting, "No blanks at the end", .info, none, .all,
      .structural .trailingWhitespace, []⟩,
    ⟨unreadableFileId, .structural, "Not readable", .info, none, .all, .structural .unreadableFile, []⟩]⟩
  settings := { dedupeSameLine := true }

/-- A tree with one header, which ends in a blank. -/
def blankTree : FileTree :=
  { entries := [(["b.h"], .file (Text.encode "int b; ".toList))] }

theorem infos_review_of_found {r : Reviewer} {tree : FileTree} {path : String} {v : Violation}
    (h : r.found tree path = [v]) (hv : v.severity = .info) :
    (r.review tree [path]).summary.infos = 1 := by
  have hviolations : (r.review tree [path]).violations = [v] := by
    rw [violations_review_singleton, h, sortForReport, List.mergeSort_singleton, settle]
    split_ifs <;> rfl
  rw [ReviewResult.summary, hviolations, Summary.ofViolations]
  simp [hv]

/-- One of the two files is not there; each is reported, and neither their order nor the loss of the
other file changes what is. -/
theorem review_blankTree : (["b.h", "./a.h"].map Path.display).Nodup ∧
    (trailingReviewer.review blankTree ["b.h", "./a.h"]).summary.infos = 2 ∧
    trailingReviewer.review blankTree ["./a.h", "b.h"] =
      trailingReviewer.review blankTree ["b.h", "./a.h"] ∧
    (trailingReviewer.review .empty ["./a.h"]).violations.filter (·.filePath = "a.h") =
      (trailingReviewer.review blankTree ["b.h", "./a.h"]).violations.filter (·.filePath = "a.h") := by
  have hnodup : (["b.h", "./a.h"].map Path.display).Nodup := by decide
  obtain ⟨-, -, hcount, hperm, hfile⟩ :=
    review_of_nodup_display trailingReviewer blankTree ["b.h", "./a.h"] hnodup
  have hb : trailingReviewer.found blankTree "b.h" = [⟨"trailing_whitespace", "No blanks at the end",
      "b.h", 1, "int b;", .info, "", .formatting⟩] := by decide +kernel
  have ha : trailingReviewer.found blankTree "./a.h" = [⟨"unreadable_file", "Not readable", "a.h", 1,
      "", .info, "Could not read file: No such file or directory (os error 2)", .structural⟩] := by
    decide +kernel
  have hdisplay : Path.display "./a.h" = "a.h" := by decide
  refine ⟨hnodup, ?_, hperm _ (List.Perm.swap _ _ _), ?_⟩
  · rw [hcount Summary.infos (by simp)]
    simp [infos_review_of_found hb rfl, infos_review_of_found ha rfl]
  · have hmissing := hfile .empty ["./a.h"] (by decide) "./a.h" (by simp) (by simp) (by decide +kernel)
    rwa [hdisplay] at hmissing

end Reviewer

end Guideline
