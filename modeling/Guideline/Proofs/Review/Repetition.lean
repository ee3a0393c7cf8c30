import Guideline.Ignore.Walk
import Guideline.Proofs.Path.Order
import Guideline.Proofs.Path.Place
import Guideline.Proofs.Review.Deduplication
import Guideline.Proofs.Review.Scope

/-!
# Files that are listed again

A file that is listed again is reviewed again. Its violations are reported twice, unless one violation a
line is left: then each line keeps a violation of the same rule and severity (`map_key_dedupeSameLine`).
Under another path a file has the same violations, with that path (`mem_found_of_place_eq`).
-/

namespace Guideline

open Collection Violation

namespace Violation

/-- Where a violation is and how severe a breach of which rule. -/
def key (v : Violation) : String × Nat × String × Severity :=
  (v.filePath, v.line, v.rule, v.severity)

/-- The violation, in another file. -/
def inFile (v : Violation) (file : String) : Violation :=
  { v with filePath := file }

end Violation

/-- The order of reports by file and line, of keys. -/
def keyOrder : String × Nat × String × Severity → String × Nat × String × Severity → Ordering :=
  compareLex (compareOn Prod.fst) (compareOn fun k => k.2.1)

theorem keyOrder_key (v w : Violation) : keyOrder v.key w.key = v.lineOrder w :=
  rfl

instance : Std.OrientedCmp keyOrder := by
  unfold keyOrder
  infer_instance

section

variable {vs ws : List Violation}

theorem pairwise_key_dedupeSameLine (h : vs.Pairwise (reportLE · ·)) :
    ((dedupeSameLine vs).map key).Pairwise fun k k' => keyOrder k k' = .lt := by
  refine List.pairwise_map.2 (((h.sublist (dedupeSameLine_sublist vs)).and
    (pairwise_dedupeSameLine h)).imp fun {v w} hvw => ?_)
  obtain ⟨hle, hline⟩ := hvw
  rw [reportLE, reportOrder_eq_then] at hle
  rw [keyOrder_key]
  cases horder : v.lineOrder w with
  | lt => rfl
  | eq => simp [lineOrder_eq_iff.1 horder] at hline
  | gt => simp [horder] at hle

/-- What is left on a line is told by the violations that there are, up to its texts. -/
theorem exists_key_eq (hvs : vs.Pairwise (reportLE · ·)) (hws : ws.Pairwise (reportLE · ·))
    (h : ∀ v, v ∈ vs ↔ v ∈ ws) {v : Violation} (hv : v ∈ dedupeSameLine vs) :
    ∃ w ∈ dedupeSameLine ws, w.key = v.key := by
  have hmem := (dedupeSameLine_sublist vs).subset hv
  obtain ⟨kept, hkept, hleft⟩ := exists_isLeft hvs hmem
  obtain rfl : v = kept := by
    have : v ∈ (dedupeSameLine vs).filter (·.sameLine v) := List.mem_filter.2 ⟨hv, sameLine_self v⟩
    rwa [hkept, List.mem_singleton] at this
  obtain ⟨w, hw, hleft'⟩ := exists_isLeft hws ((h v).1 hmem)
  have hwmem : w ∈ dedupeSameLine ws := List.mem_of_mem_filter (hw ▸ List.mem_singleton_self w)
  have hwvs := (h w).2 ((dedupeSameLine_sublist ws).subset hwmem)
  have hsev : w.severity = v.severity := by
    have hle := hleft.severest w hwvs hleft'.sameLine
    have hge := hleft'.severest v ((h v).1 hmem) (sameLine_self v)
    revert hle hge
    cases w.severity <;> cases v.severity <;> decide
  have hrule : w.rule = v.rule :=
    String.le_antisymm (hleft'.lowest v ((h v).1 hmem) (sameLine_self v) hsev.symm)
      (hleft.lowest w hwvs hleft'.sameLine hsev)
  obtain ⟨hfile, hline⟩ := sameLine_iff.1 hleft'.sameLine
  exact ⟨w, hwmem, by rw [key, key, hfile, hline, hrule, hsev]⟩

theorem map_key_dedupeSameLine (hvs : vs.Pairwise (reportLE · ·)) (hws : ws.Pairwise (reportLE · ·))
    (h : ∀ v, v ∈ vs ↔ v ∈ ws) : (dedupeSameLine vs).map key = (dedupeSameLine ws).map key := by
  have hnodup : ∀ {us : List Violation}, us.Pairwise (reportLE · ·) →
      ((dedupeSameLine us).map key).Nodup := by
    intro us hus
    refine (pairwise_key_dedupeSameLine hus).imp ?_
    rintro k _ hlt rfl
    have hself : keyOrder k k = .eq := Std.ReflCmp.compare_self
    rw [hself] at hlt
    cases hlt
  have hperm : ((dedupeSameLine vs).map key).Perm ((dedupeSameLine ws).map key) := by
    refine (List.perm_ext_iff_of_nodup (hnodup hvs) (hnodup hws)).2 fun k => ?_
    simp only [List.mem_map]
    constructor
    · rintro ⟨v, hv, rfl⟩
      exact exists_key_eq hvs hws h hv
    · rintro ⟨w, hw, rfl⟩
      exact exists_key_eq hws hvs (fun v => (h v).symm) hw
  refine hperm.eq_of_pairwise (fun k k' _ _ hlt hgt => ?_) (pairwise_key_dedupeSameLine hvs)
    (pairwise_key_dedupeSameLine hws)
  rw [Std.OrientedCmp.gt_of_lt hlt] at hgt
  cases hgt

/-- What is left on a line is as severe as all that was there. -/
theorem any_atLeast_dedupeSameLine (h : vs.Pairwise (reportLE · ·)) (t : Severity) :
    (dedupeSameLine vs).any (·.severity.atLeast t) = vs.any (·.severity.atLeast t) := by
  rw [Bool.eq_iff_iff, List.any_eq_true, List.any_eq_true]
  constructor
  · rintro ⟨v, hv, ht⟩
    exact ⟨v, (dedupeSameLine_sublist vs).subset hv, ht⟩
  · rintro ⟨v, hv, ht⟩
    obtain ⟨kept, hkept, hleft⟩ := exists_isLeft h hv
    have hsevere := hleft.severest v hv (sameLine_self v)
    refine ⟨kept, List.mem_of_mem_filter (hkept ▸ List.mem_singleton_self kept), ?_⟩
    simp only [Severity.atLeast, decide_eq_true_eq] at ht hsevere ⊢
    omega

end

namespace Ignore

/-- The found files as they are listed for a review. -/
def inOrder (found : List String) : List String :=
  found.mergeSort fun a b => Path.cmp a b != .gt

theorem inOrder_perm (found : List String) : (inOrder found).Perm found :=
  List.mergeSort_perm ..

theorem inOrder_filter (p : String → Bool) (found : List String) :
    inOrder (found.filter p) = (inOrder found).filter p := by
  have hle : (fun a b => Path.cmp a b != .gt) = fun a b => (Path.cmp a b).isLE := by
    funext a b
    cases Path.cmp a b <;> rfl
  unfold inOrder
  rw [hle]
  exact mergeSort_filter (fun _ _ _ => Std.TransCmp.isLE_trans) (isLE_total Path.cmp) p found

end Ignore

open Ignore

namespace Reviewer

variable (r : Reviewer) (tree : FileTree)

/-- The file at the path takes part in a review. -/
def selects (path : String) : Bool :=
  (r.select? path).isSome

theorem files_review_eq_countP (paths : List String) :
    (r.review tree paths).files = paths.countP r.selects := by
  simp only [review, List.length_filterMap_eq_countP, Option.isSome_map]
  rfl

theorem review_filter_selects (paths : List String) :
    r.review tree (paths.filter r.selects) = r.review tree paths := by
  have hselected : (paths.filter r.selects).filterMap (fun path => (r.select? path).map (path, ·)) =
      paths.filterMap fun path => (r.select? path).map (path, ·) := by
    rw [List.filterMap_filter]
    refine List.filterMap_congr fun path _ => ?_
    rw [selects]
    cases r.select? path <;> rfl
  simp only [review, hselected]

section

variable {before again after : List String}

theorem files_review_again : (r.review tree (inOrder (before ++ again ++ after))).files =
    (r.review tree (inOrder (before ++ after))).files + again.countP r.selects := by
  simp only [files_review_eq_countP, (inOrder_perm _).countP_eq, List.countP_append]
  omega

theorem flatMap_found_perm : ((inOrder (before ++ again ++ after)).flatMap (r.found tree)).Perm
    ((inOrder (before ++ after)).flatMap (r.found tree) ++ again.flatMap (r.found tree)) := by
  refine ((inOrder_perm _).flatMap_right _).trans ?_
  refine List.Perm.trans ?_ (((inOrder_perm _).flatMap_right _).symm.append_right _)
  simp only [List.flatMap_append, List.append_assoc]
  exact (List.perm_append_comm).append_left _

/-- Without one violation a line, all violations of the files are reported again. -/
theorem violations_review_again (hdedupe : r.settings.dedupeSameLine = false) :
    (r.review tree (inOrder (before ++ again ++ after))).violations.Perm
      ((r.review tree (inOrder (before ++ after))).violations ++ again.flatMap (r.found tree)) := by
  have hsettle : ∀ vs, r.settle vs = vs := fun vs => if_neg (by simp [hdedupe])
  have hsort : ∀ vs, (sortForReport vs).Perm vs := fun vs => List.mergeSort_perm ..
  simp only [violations_review, hsettle]
  exact (hsort _).trans ((r.flatMap_found_perm tree).trans ((hsort _).symm.append_right _))

theorem mem_found_again
    (hagain : ∀ f ∈ again, ∀ v ∈ r.found tree f, ∃ g ∈ before ++ after, v ∈ r.found tree g) (v : Violation) :
    v ∈ sortForReport ((inOrder (before ++ again ++ after)).flatMap (r.found tree)) ↔
      v ∈ sortForReport ((inOrder (before ++ after)).flatMap (r.found tree)) := by
  rw [mem_sortForReport, mem_sortForReport, (r.flatMap_found_perm tree).mem_iff, List.mem_append,
    or_iff_left_iff_imp]
  intro hv
  obtain ⟨f, hf, hv⟩ := List.mem_flatMap.1 hv
  obtain ⟨g, hg, hv⟩ := hagain f hf v hv
  exact List.mem_flatMap.2 ⟨g, (inOrder_perm _).mem_iff.2 hg, hv⟩

theorem key_violations_review_again
    (hagain : ∀ f ∈ again, ∀ v ∈ r.found tree f, ∃ g ∈ before ++ after, v ∈ r.found tree g)
    (hdedupe : r.settings.dedupeSameLine = true) :
    (r.review tree (inOrder (before ++ again ++ after))).violations.map key =
      (r.review tree (inOrder (before ++ after))).violations.map key := by
  simp only [violations_review, settle, if_pos hdedupe]
  exact map_key_dedupeSameLine (pairwise_sortForReport _) (pairwise_sortForReport _)
    (r.mem_found_again tree hagain)

theorem failsAt_review_iff {paths : List String} {t : Severity} : (r.review tree paths).failsAt t = true ↔
    ∃ p ∈ paths, ∃ v ∈ r.found tree p, v.severity.atLeast t = true := by
  have hsettle : (r.settle (sortForReport (paths.flatMap (r.found tree)))).any (·.severity.atLeast t) =
      (sortForReport (paths.flatMap (r.found tree))).any (·.severity.atLeast t) := by
    unfold settle
    split_ifs
    · exact any_atLeast_dedupeSameLine (pairwise_sortForReport _) t
    · rfl
  rw [ReviewResult.failsAt, violations_review, hsettle, List.any_eq_true]
  simp only [mem_sortForReport, List.mem_flatMap]
  constructor
  · rintro ⟨v, ⟨p, hp, hv⟩, ht⟩
    exact ⟨p, hp, v, hv, ht⟩
  · rintro ⟨p, hp, v, hv, ht⟩
    exact ⟨v, ⟨p, hp, hv⟩, ht⟩

theorem failsAt_review_again_of_failsAt {t : Severity}
    (h : (r.review tree (inOrder (before ++ after))).failsAt t = true) :
    (r.review tree (inOrder (before ++ again ++ after))).failsAt t = true := by
  obtain ⟨f, hf, found⟩ := (r.failsAt_review_iff tree).1 h
  refine (r.failsAt_review_iff tree).2 ⟨f, ?_, found⟩
  simp only [(inOrder_perm _).mem_iff, List.mem_append] at hf ⊢
  tauto

/-- Only a violation of a severity that was not found before can make the review fail. -/
theorem exists_found_of_failsAt_again {t : Severity}
    (hagain : (r.review tree (inOrder (before ++ again ++ after))).failsAt t = true)
    (h : (r.review tree (inOrder (before ++ after))).failsAt t = false) :
    ∃ f ∈ again, ∃ v ∈ r.found tree f, ∀ g ∈ before ++ after, ∀ w ∈ r.found tree g, w.severity ≠ v.severity := by
  have hnone : ∀ g ∈ before ++ after, ∀ w ∈ r.found tree g, w.severity.atLeast t = false := by
    intro g hg w hw
    rw [← Bool.not_eq_true]
    intro ht
    rw [(r.failsAt_review_iff tree).2 ⟨g, (inOrder_perm _).mem_iff.2 hg, w, hw, ht⟩] at h
    cases h
  obtain ⟨f, hf, v, hv, ht⟩ := (r.failsAt_review_iff tree).1 hagain
  have hf' : f ∈ again := by
    by_contra hnot
    have hmem : f ∈ before ++ after := by
      simp only [(inOrder_perm _).mem_iff, List.mem_append] at hf ⊢
      tauto
    rw [hnone f hmem v hv] at ht
    cases ht
  refine ⟨f, hf', v, hv, fun g hg w hw heq => ?_⟩
  rw [← heq, hnone g hg w hw] at ht
  cases ht

/-- Only files that take no part in a review can be listed again without a change. -/
theorem review_again_eq_iff : r.review tree (inOrder (before ++ again ++ after)) =
    r.review tree (inOrder (before ++ after)) ↔ ∀ f ∈ again, r.select? f = none := by
  constructor
  · intro heq f hf
    have hfiles : (r.review tree (inOrder (before ++ again ++ after))).files = _ := r.files_review_again tree
    rw [heq] at hfiles
    have hnone := List.countP_eq_zero.1 (by omega : again.countP r.selects = 0) f hf
    simpa [selects] using hnone
  · intro hnone
    have hfilter : again.filter r.selects = [] :=
      List.filter_eq_nil_iff.2 fun f hf => by simp [selects, hnone f hf]
    rw [← review_filter_selects, ← inOrder_filter, ← review_filter_selects r tree (inOrder (before ++ after)),
      ← inOrder_filter, List.filter_append, List.filter_append, hfilter, List.append_nil,
      ← List.filter_append]

end

/-! ### One file under two paths -/

theorem ruleViolations_inFile (file : CheckedFile) (path : String) (rule : Rule) :
    r.ruleViolations { file with path } rule =
      (r.ruleViolations file rule).map (·.inFile (Path.display path)) := by
  have hnote : ∀ id reason, r.note { file with path } id reason =
      (r.note file id reason).map (·.inFile (Path.display path)) := by
    intro id reason
    unfold note
    cases r.rules.find? id <;> rfl
  unfold ruleViolations checkRule
  cases r.matchers.find? (·.handles rule.detection) with
  | none => exact hnote _ _
  | some m =>
    simp only [Matcher.check]
    split_ifs
    · cases rule.detection.findings file.source with
      | error e => exact hnote _ _
      | ok found => simp [Except.map, Except.mapError, Finding.violation, inFile]
    · exact hnote _ _

theorem mem_reviewFile_of_readSource_eq (hscope : r.scope = .unscoped) {p q : String} {kind : FileKind}
    (hread : readSource tree p = readSource tree q) {v : Violation} (hv : v ∈ r.reviewFile tree p kind) :
    v.inFile (Path.display q) ∈ r.reviewFile tree q kind := by
  have hscoped : ∀ path v, r.inScope path v = true := by
    intro path v
    simp [inScope, hscope, Change.ChangeScope.coversFile, Change.ChangeScope.contains]
  unfold reviewFile at hv ⊢
  rw [hread] at hv
  cases hcontent : readSource tree q with
  | error reason =>
    rw [hcontent] at hv
    obtain ⟨rule, hrule, rfl⟩ := mem_note.1 hv
    exact mem_note.2 ⟨rule, hrule, rfl⟩
  | ok content =>
    rw [hcontent] at hv
    simp only [reviewText, fileViolations, mem_sortForReport, List.mem_filter, hscoped, and_true] at hv ⊢
    obtain ⟨hv, hallowed⟩ := hv
    obtain ⟨rule, hrule, hv⟩ := List.mem_flatMap.1 hv
    refine ⟨List.mem_flatMap.2 ⟨rule, hrule, ?_⟩, hallowed⟩
    rw [r.ruleViolations_inFile ⟨p, kind, _⟩ q rule]
    exact List.mem_map_of_mem hv

theorem isExcluded_eq_false_of_mem_found {p : String} {v : Violation} (hv : v ∈ r.found tree p) :
    r.isExcluded p = false := by
  cases hp : r.isExcluded p with
  | false => rfl
  | true =>
    have hnone : r.select? p = none := by
      rw [select?]
      cases r.settings.classify p <;> simp [hp]
    simp [found, hnone] at hv

/-- Under another path that is not left out, a review without scope finds the same violations. -/
theorem mem_found_of_place_eq (hscope : r.scope = .unscoped) (hw : tree.WellFormed) {p q : String}
    (hfile : tree.isFile p = true) (hplace : tree.place p = tree.place q)
    (hq : r.isExcluded q = false) {v : Violation} (hv : v ∈ r.found tree p) :
    v.inFile (Path.display q) ∈ r.found tree q := by
  obtain ⟨names, bytes, hnames, hbytes⟩ := FileTree.isFile_iff.1 hfile
  have hname : Path.fileName? p = Path.fileName? q := by
    rw [FileTree.fileName?_of_place hw hnames hbytes,
      FileTree.fileName?_of_place hw (hplace ▸ hnames) hbytes]
  have hread : readSource tree p = readSource tree q := by
    simp only [readSource, FileTree.readBytes, FileTree.get, hplace]
  have hcovered : ∀ path, r.scope.coversFile path = true := by
    intro path
    rw [hscope]
    rfl
  have hclass : r.settings.classify q = r.settings.classify p := by
    simp only [Settings.classify, Path.extension?, hname]
  have hp := r.isExcluded_eq_false_of_mem_found tree hv
  cases hkind : r.settings.classify p with
  | none => simp [found, select?, hkind] at hv
  | some kind =>
    simp only [found, select?, hclass, hkind, hp, hq, hcovered, Bool.not_true, Bool.or_false,
      Bool.false_eq_true, if_false] at hv ⊢
    exact r.mem_reviewFile_of_readSource_eq tree hscope hread hv

/-- Paths that reports show alike have the same violations. -/
theorem mem_found_of_display_eq (hscope : r.scope = .unscoped) (hw : tree.WellFormed) {p q : String}
    (hfile : tree.isFile p = true) (hplace : tree.place p = tree.place q)
    (hdisplay : Path.display p = Path.display q) {v : Violation} (hv : v ∈ r.found tree p) :
    v ∈ r.found tree q := by
  have hq : r.isExcluded q = false := by
    rw [isExcluded, ← hdisplay]
    exact r.isExcluded_eq_false_of_mem_found tree hv
  have hself : v.inFile (Path.display q) = v := by
    rw [← hdisplay, ← r.inOwnFile_found tree p v hv]
    rfl
  exact hself ▸ r.mem_found_of_place_eq tree hscope hw hfile hplace hq hv

end Reviewer

end Guideline
