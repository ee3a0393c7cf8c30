import Guideline.Proofs.Command.Strictness
import Guideline.Proofs.Ignore.Walk
import Guideline.Proofs.Review.Repetition

/-!
# Paths that are given again

Each path that is given to a check is walked by itself, and a file that is found twice is reviewed twice.
So a path that is given again, or that lies below another one, adds to the counts and to the report
(`run_repeatedPath`). The exit code stays, since what is found again is no more severe, unless a glob leaves
a file out under one of its paths and not under the other.
-/

namespace Guideline

open Ignore

namespace Command

/-! ### Exit codes -/

namespace RunM

variable {α : Type} {p : Progress}

theorem run_ofExcept_of_ok {x : Except Failure α} {a : α} (hx : x = .ok a) :
    ExceptT.run (MonadExcept.ofExcept x : RunM α) p = (.ok a, p) := by
  rw [hx]
  rfl

theorem run_ofExcept_of_error {x : Except Failure α} {e : Failure} (hx : x = .error e) :
    ExceptT.run (MonadExcept.ofExcept x : RunM α) p = (.error e, p) := by
  rw [hx]
  rfl

end RunM

namespace CheckRequest

open RunM

variable {r : CheckRequest} {config : Option String} {s : Surroundings} {c : Configuration}
  {result : ReviewResult}

/-- The report can be emitted, whatever it says. -/
def canEmit (r : CheckRequest) (tree : FileTree) : Bool :=
  match r.output with
  | none => true
  | some path => (tree.writeText path []).isOk

theorem isOk_writeText (tree : FileTree) (path : String) (cs : List Char) :
    (tree.writeText path cs).isOk = (tree.writeText path []).isOk := by
  unfold FileTree.writeText
  cases tree.targetPlace path with
  | error e => rfl
  | ok names =>
    simp only [bind, Except.bind]
    split
    · rfl
    · simp only [pure, Except.pure, Except.isOk, Except.toBool]

theorem run_emit (r : CheckRequest) (result : ReviewResult) (p : Progress) :
    (∃ p', ExceptT.run (r.emit result) p = (.ok (), p')) ∧ r.canEmit p.now.tree = true ∨
    (∃ e p', ExceptT.run (r.emit result) p = (.error e, p')) ∧ r.canEmit p.now.tree = false := by
  unfold emit canEmit
  cases r.output with
  | none => exact .inl ⟨⟨_, rfl⟩, rfl⟩
  | some path =>
    simp only [← isOk_writeText p.now.tree path (r.report result).toList]
    unfold writeFile
    cases hwrite : p.now.tree.writeText path (r.report result).toList with
    | ok tree =>
      refine .inl ⟨⟨{ p with now := { p.now with tree } }, ?_⟩, rfl⟩
      refine (run_bind_of_ok rfl).trans ((run_bind_of_ok (run_ofExcept_of_ok ?_)).trans rfl)
      rw [hwrite]
      rfl
    | error e =>
      refine .inr ⟨⟨.report path e, p, ?_⟩, rfl⟩
      refine (run_bind_of_ok rfl).trans (run_bind_of_error (run_ofExcept_of_error ?_))
      rw [hwrite]
      rfl

theorem run_reviewAndEmit_of_ok (hload : Configuration.load s.tree s.userConfig config = .ok c)
    (hreview : r.review s c = .ok result) : ExceptT.run (r.reviewAndEmit config) { now := s } =
      ExceptT.run (r.emit result >>= fun _ => pure (c, result))
        { now := s, gitArguments := r.gitArguments? s.git } := by
  have hsurroundings : ExceptT.run surroundings { now := s } = (.ok s, { now := s }) := rfl
  have hconfig := run_ofExcept_of_ok (p := { now := s })
    (mapError_eq_ok_iff (f := Failure.config).2 hload)
  have hgit : ExceptT.run (noteGit (r.gitArguments? s.git)) { now := s } =
      (.ok (), { now := s, gitArguments := r.gitArguments? s.git }) := rfl
  unfold reviewAndEmit
  rw [run_bind_of_ok hsurroundings, run_bind_of_ok hconfig, run_bind_of_ok hgit,
    run_bind_of_ok (run_ofExcept_of_ok hreview)]

theorem exit_run_of_ok (hload : Configuration.load s.tree s.userConfig config = .ok c)
    (hreview : r.review s c = .ok result) :
    ((r.run config).outcome s).exit = if r.canEmit s.tree then r.exitCode (c, result) else 2 := by
  have hrun := run_reviewAndEmit_of_ok hload hreview
  rw [run_eq_bind]
  rcases run_emit r result { now := s, gitArguments := r.gitArguments? s.git } with
    ⟨⟨p', hemit⟩, hcan⟩ | ⟨⟨e, p', hemit⟩, hcan⟩
  · rw [run_bind_of_ok hemit] at hrun
    rw [outcome_bind_pure_of_ok hrun, if_pos hcan]
  · rw [run_bind_of_error hemit] at hrun
    rw [outcome_bind_pure_of_error hrun, hcan]
    rfl

theorem exit_run_of_not_ok (h : ∀ c result, Configuration.load s.tree s.userConfig config = .ok c →
    r.review s c ≠ .ok result) : ((r.run config).outcome s).exit = 2 := by
  rcases outcome_of_ends (s := s) (r.ends_run config) with ⟨htwo, -⟩ | ⟨p, hp, -⟩
  · exact htwo
  · obtain ⟨c, result, hload, hreview, -⟩ := hp
    exact absurd hreview (h c result hload)

/-! ### Reviews without scope -/

/-- The reviewer of a check without scope, before its globs are read. -/
def fullReviewer (r : CheckRequest) (c : Configuration) : Reviewer :=
  { rules := c.rules, settings := r.settings c }

theorem files_unscoped_eq_ok_iff {fs : List String} : r.files s .unscoped = .ok fs ↔
    ∃ found, r.paths.mapM (walk s.tree) = .ok found ∧ fs = inOrder found.flatten := by
  show (discover s.tree r.paths).mapError Failure.walk = .ok fs ↔ _
  rw [mapError_eq_ok_iff, discover, bind_eq_ok_iff]
  refine exists_congr fun found => and_congr_right fun _ => ?_
  exact ⟨fun h => (Except.ok.inj h).symm, fun h => congrArg Except.ok h.symm⟩

theorem review_eq_ok_iff (hscope : r.scope s = .ok .unscoped) : r.review s c = .ok result ↔
    ∃ found reviewer, r.paths.mapM (walk s.tree) = .ok found ∧
      (r.fullReviewer c).withExcludes r.exclude = .ok reviewer ∧
      result = reviewer.review s.tree (inOrder found.flatten) := by
  rw [review, hscope]
  constructor
  · intro h
    obtain ⟨scope, hscope, h⟩ := bind_eq_ok_iff.1 h
    obtain rfl := Except.ok.inj hscope
    obtain ⟨fs, hfs, h⟩ := bind_eq_ok_iff.1 h
    obtain ⟨reviewer, hreviewer, h⟩ := bind_eq_ok_iff.1 h
    obtain ⟨found, hfound, rfl⟩ := files_unscoped_eq_ok_iff.1 hfs
    exact ⟨found, reviewer, hfound, mapError_eq_ok_iff.1 hreviewer, (Except.ok.inj h).symm⟩
  · rintro ⟨found, reviewer, hfound, hreviewer, rfl⟩
    refine bind_eq_ok_iff.2 ⟨_, rfl, ?_⟩
    refine bind_eq_ok_iff.2 ⟨_, files_unscoped_eq_ok_iff.2 ⟨found, hfound, rfl⟩, ?_⟩
    exact bind_eq_ok_iff.2 ⟨reviewer, mapError_eq_ok_iff.2 hreviewer, rfl⟩

theorem withExcludes_fullReviewer {reviewer : Reviewer}
    (h : (r.fullReviewer c).withExcludes r.exclude = .ok reviewer) :
    reviewer.scope = .unscoped ∧ reviewer.settings.dedupeSameLine = c.settings.dedupeSameLine := by
  rw [Reviewer.withExcludes] at h
  obtain ⟨globs, -, h⟩ := bind_eq_ok_iff.1 h
  obtain rfl := Except.ok.inj h
  refine ⟨rfl, ?_⟩
  simp only [fullReviewer, settings]
  split_ifs <;> rfl

end CheckRequest

/-! ### Paths given again -/

/-- `p` leads to where `q` leads, and `q` is given, or a directory is given whose walk comes to it. -/
structure Repeats (tree : FileTree) (paths : List String) (p q : String) : Prop where
  given : q ∈ paths ∨ ∃ dir ∈ paths, FoundBelow tree dir q
  place : tree.place p = tree.place q
  /-- Nothing is found from a dash, whatever it leads to. -/
  walked : q = "-" → p = "-"

section

variable {tree : FileTree} {paths : List String} {p q : String}

/-- What is found again was found before, spelled from `q` on. -/
theorem Repeats.exists_found (h : Repeats tree paths p q) (hw : tree.WellFormed)
    {found : List (List String)} (hfound : paths.mapM (walk tree) = .ok found) {again : List String}
    (hagain : walk tree p = .ok again) : ∀ f ∈ again, ∃ g ∈ found.flatten, Respelled tree p q f g := by
  have hwalked : ∀ {q fs g}, q ∈ paths → walk tree q = .ok fs → g ∈ fs → g ∈ found.flatten :=
    fun hq hfs hg => List.mem_flatten.2 ⟨_, (mem_iff_of_mapM_eq_ok hfound).2 ⟨_, hq, hfs⟩, hg⟩
  intro f hf
  by_cases hp : p = "-"
  · rw [hp, walk, if_pos rfl] at hagain
    obtain rfl := Except.ok.inj hagain
    cases hf
  · obtain ⟨fs, hfs, hsame⟩ := walk_of_place_eq hw hp (mt h.walked hp) h.place hagain
    obtain ⟨g, hg, hfg⟩ := hsame f hf
    refine ⟨g, ?_, hfg⟩
    rcases h.given with hq | ⟨dir, hdir, hq⟩
    · exact hwalked hq hfs hg
    · obtain ⟨below, hbelow⟩ := exists_mapM_eq_ok_iff.1 ⟨found, hfound⟩ dir hdir
      exact hwalked hdir hbelow (mem_of_foundBelow hw hq hbelow hfs g hg)

/-- The walk of a path that is given again fails only with another one, or at a directory. -/
theorem Repeats.of_walk_eq_error (h : Repeats tree paths p q) (hw : tree.WellFormed) {e : WalkError}
    (he : walk tree p = .error e) :
    (∃ path ∈ paths, ∃ e, walk tree path = .error e) ∨ tree.get p = .ok .directory := by
  have hp : p ≠ "-" := by
    rintro rfl
    rw [walk, if_pos rfl] at he
    cases he
  rcases h.given with hq | ⟨dir, -, hq⟩
  · refine .inl ⟨q, hq, ?_⟩
    cases hwalk : walk tree q with
    | error e => exact ⟨e, rfl⟩
    | ok fs =>
      obtain ⟨again, hagain, -⟩ := walk_of_place_eq hw (mt h.walked hp) hp h.place.symm hwalk
      rw [hagain] at he
      cases he
  · obtain ⟨entry, hentry⟩ := hq.get hw
    obtain ⟨names, hnames, hfind⟩ := FileTree.get_eq_ok_iff.1 hentry
    cases entry with
    | file bytes =>
      rw [walk_of_file hp (h.place.trans hnames) hfind] at he
      cases he
    | directory => exact .inr (FileTree.get_eq_ok_iff.2 ⟨names, h.place.trans hnames, hfind⟩)

end

section

variable {r : CheckRequest} {s : Surroundings} {front back : List String} {p q : String}
  {config : Option String}

/-- The check with one more path. -/
def CheckRequest.withPath (r : CheckRequest) (front : List String) (p : String) (back : List String) :
    CheckRequest :=
  { r with paths := front ++ p :: back }

/-- A glob leaves out a file under its spelling from `q` on, and not under that from `p` on. -/
def CheckRequest.ExcludesOnly (r : CheckRequest) (s : Surroundings) (config : Option String)
    (p q : String) (again : List String) : Prop :=
  ∃ c reviewer, Configuration.load s.tree s.userConfig config = .ok c ∧
    (r.fullReviewer c).withExcludes r.exclude = .ok reviewer ∧
    ∃ f ∈ again, ∃ g, Respelled s.tree p q f g ∧ reviewer.isExcluded g = true ∧ reviewer.isExcluded f = false

theorem CheckRequest.ExcludesOnly.ne {again : List String} (h : r.ExcludesOnly s config p q again) : p ≠ q := by
  rintro rfl
  obtain ⟨c, reviewer, -, -, f, -, g, hfg, hg, hf⟩ := h
  rw [hfg.eq, hg] at hf
  cases hf

theorem exit_run_of_walk_eq_error (hscope : r.scope s = .ok .unscoped) {e : WalkError}
    (he : walk s.tree p = .error e) (hp : p ∈ r.paths) : ((r.run config).outcome s).exit = 2 := by
  refine CheckRequest.exit_run_of_not_ok fun c result _ hreview => ?_
  obtain ⟨found, -, hfound, -⟩ := (CheckRequest.review_eq_ok_iff hscope).1 hreview
  obtain ⟨fs, hfs⟩ := exists_mapM_eq_ok_iff.1 ⟨found, hfound⟩ p hp
  rw [he] at hfs
  cases hfs

/-- A check that did not fail fails only on what a glob left out before. -/
theorem excludesOnly_of_failsAt (htree : s.tree.WellFormed) {again : List String} {c : Configuration}
    (hload : Configuration.load s.tree s.userConfig config = .ok c) {reviewer : Reviewer}
    (hreviewer : (r.fullReviewer c).withExcludes r.exclude = .ok reviewer) {fs₁ fs₂ : List String}
    (hsame : ∀ f ∈ again, ∃ g ∈ fs₁ ++ fs₂, Respelled s.tree p q f g) {t : Severity}
    (hagain : (reviewer.review s.tree (inOrder (fs₁ ++ again ++ fs₂))).failsAt t = true)
    (h : (reviewer.review s.tree (inOrder (fs₁ ++ fs₂))).failsAt t = false) :
    r.ExcludesOnly s config p q again := by
  obtain ⟨f, hf, v, hv, hnew⟩ := reviewer.exists_found_of_failsAt_again s.tree hagain h
  obtain ⟨g, hg, hfg⟩ := hsame f hf
  refine ⟨c, reviewer, hload, hreviewer, f, hf, g, hfg, ?_, reviewer.isExcluded_eq_false_of_mem_found s.tree hv⟩
  rw [← Bool.not_eq_false]
  intro hexcluded
  obtain ⟨hunscoped, -⟩ := CheckRequest.withExcludes_fullReviewer hreviewer
  have hfound := reviewer.mem_found_of_place_eq s.tree hunscoped htree hfg.isFile hfg.place hexcluded hv
  exact hnew g hg _ hfound rfl

variable (hscope : r.scope s = .ok .unscoped) (hpaths : r.paths = front ++ back)

include hscope hpaths

/-- What the review with one more path reviews: the files of its walk stand among the others. -/
theorem exists_review_again (htree : s.tree.WellFormed) (hp : Repeats s.tree r.paths p q)
    {again : List String} (hagain : walk s.tree p = .ok again) {c : Configuration}
    {result : ReviewResult} (hreview : r.review s c = .ok result) :
    ∃ reviewer fs₁ fs₂, (r.fullReviewer c).withExcludes r.exclude = .ok reviewer ∧
      result = reviewer.review s.tree (inOrder (fs₁ ++ fs₂)) ∧
      (r.withPath front p back).review s c =
        .ok (reviewer.review s.tree (inOrder (fs₁ ++ again ++ fs₂))) ∧
      ∀ f ∈ again, ∃ g ∈ fs₁ ++ fs₂, Respelled s.tree p q f g := by
  obtain ⟨found, reviewer, hfound, hreviewer, rfl⟩ := (CheckRequest.review_eq_ok_iff hscope).1 hreview
  have hbefore := hp.exists_found htree hfound hagain
  rw [hpaths] at hfound
  obtain ⟨found₁, found₂, rfl, hfound'⟩ := mapM_insert_eq_ok hfound hagain
  rw [List.flatten_append] at hbefore ⊢
  refine ⟨reviewer, found₁.flatten, found₂.flatten, hreviewer, rfl, ?_, hbefore⟩
  have hscope' : (r.withPath front p back).scope s = .ok .unscoped := hscope
  refine (CheckRequest.review_eq_ok_iff hscope').2 ⟨_, reviewer, hfound', hreviewer, ?_⟩
  simp

theorem exists_review_of_withPath {c : Configuration} {result : ReviewResult}
    (h : (r.withPath front p back).review s c = .ok result) : ∃ result, r.review s c = .ok result := by
  have hscope' : (r.withPath front p back).scope s = .ok .unscoped := hscope
  obtain ⟨found', reviewer, hfound', hreviewer, -⟩ := (CheckRequest.review_eq_ok_iff hscope').1 h
  obtain ⟨found, hfound⟩ : ∃ found, r.paths.mapM (walk s.tree) = .ok found := by
    refine exists_mapM_eq_ok_iff.2 fun q hq => exists_mapM_eq_ok_iff.1 ⟨found', hfound'⟩ q ?_
    rw [hpaths] at hq
    simp only [CheckRequest.withPath, List.mem_append, List.mem_cons] at hq ⊢
    tauto
  exact ⟨_, (CheckRequest.review_eq_ok_iff hscope).2 ⟨found, reviewer, hfound, hreviewer, rfl⟩⟩

theorem exit_run_withPath (htree : s.tree.WellFormed) (hp : Repeats s.tree r.paths p q)
    {again : List String} (hagain : walk s.tree p = .ok again) :
    (((r.withPath front p back).run config).outcome s).exit = ((r.run config).outcome s).exit ∨
      ((r.run config).outcome s).exit = 0 ∧ (((r.withPath front p back).run config).outcome s).exit = 1 ∧
        r.ExcludesOnly s config p q again := by
  by_cases hok : ∃ c result, Configuration.load s.tree s.userConfig config = .ok c ∧
      r.review s c = .ok result
  · obtain ⟨c, result, hload, hreview⟩ := hok
    obtain ⟨reviewer, fs₁, fs₂, hreviewer, rfl, hreview', hsame⟩ :=
      exists_review_again hscope hpaths htree hp hagain hreview
    have hemit : (r.withPath front p back).canEmit s.tree = r.canEmit s.tree := rfl
    have hsettings : (r.withPath front p back).settings c = r.settings c := rfl
    rw [CheckRequest.exit_run_of_ok hload hreview, CheckRequest.exit_run_of_ok hload hreview', hemit,
      CheckRequest.exitCode, CheckRequest.exitCode, hsettings]
    cases hbefore : (reviewer.review s.tree (inOrder (fs₁ ++ fs₂))).failsAt (r.settings c).threshold with
    | true => exact .inl (by rw [reviewer.failsAt_review_again_of_failsAt s.tree hbefore])
    | false =>
      cases hafter : (reviewer.review s.tree
          (inOrder (fs₁ ++ again ++ fs₂))).failsAt (r.settings c).threshold with
      | false => exact .inl rfl
      | true =>
        have honly := excludesOnly_of_failsAt htree hload hreviewer hsame hafter hbefore
        cases r.canEmit s.tree with
        | true => exact .inr ⟨rfl, rfl, honly⟩
        | false => exact .inl rfl
  · left
    rw [CheckRequest.exit_run_of_not_ok fun c result hload hreview => hok ⟨c, result, hload, hreview⟩]
    refine CheckRequest.exit_run_of_not_ok fun c result' hload hreview' => ?_
    obtain ⟨result, hreview⟩ := exists_review_of_withPath hscope hpaths hreview'
    exact hok ⟨c, result, hload, hreview⟩

end

/-- A path that is given again among the arguments of a check without scope, as it is or in another spelling,
leaves the exit code as it is, unless it is a directory whose walk fails; or the check fails now and did not,
since a glob left a file out under its other path. The files that its walk finds are counted again, as far as
they take part. Without one violation a line, everything that is found in them is reported again; with one, the
same lines are reported for the same rules, if reports show both paths alike. So the result stays only if none of
these files takes part. -/
theorem run_repeatedPath {before after : List String} {place : Reading} {p q : String} {i : Invocation}
    {r : CheckRequest} {s : Surroundings} (hbefore : before.foldlM Reading.advance {} = .ok place)
    (hplace : place.AwaitsPath p) (hi : Invocation.ofArguments (before ++ after) = .ok i)
    (hr : i.request = .check r) (hgives : GivesPath (before ++ after)) (hscope : r.scope s = .ok .unscoped)
    (htree : s.tree.WellFormed) (hp : Repeats s.tree r.paths p q) :
    let o := run (before ++ after) s
    let o' := run (before ++ p :: after) s
    ∃ front back, r.paths = front ++ back ∧
      Invocation.ofArguments (before ++ p :: after) =
        .ok { i with request := .check (r.withPath front p back) } ∧
      (∀ e, walk s.tree p = .error e → o'.exit = 2 ∧ (o.exit = 2 ∨ s.tree.get p = .ok .directory)) ∧
      ∀ again, walk s.tree p = .ok again →
        (o'.exit = o.exit ∨
          o.exit = 0 ∧ o'.exit = 1 ∧ p ≠ q ∧ r.ExcludesOnly s i.config p q again) ∧
        ∀ c result, Configuration.load s.tree s.userConfig i.config = .ok c → r.review s c = .ok result →
          ∃ reviewer result', (r.fullReviewer c).withExcludes r.exclude = .ok reviewer ∧
            (r.withPath front p back).review s c = .ok result' ∧
            result'.files = result.files + again.countP reviewer.selects ∧
            (c.settings.dedupeSameLine = false →
              result'.violations.Perm (result.violations ++ again.flatMap (reviewer.found s.tree))) ∧
            (c.settings.dedupeSameLine = true →
              (p = q ∨ ∀ f ∈ again, ∀ g, Respelled s.tree p q f g → Path.display f = Path.display g) →
              result'.violations.map Violation.key = result.violations.map Violation.key) ∧
            (result' = result ↔ ∀ f ∈ again, reviewer.select? f = none) := by
  intro o o'
  obtain ⟨front, back, hpaths, hi'⟩ := Invocation.ofArguments_insertPath hbefore hplace hi hr hgives
  have hscope' : (r.withPath front p back).scope s = .ok .unscoped := hscope
  have ho : o = _ := run_eq_outcome hi hr s
  have ho' : o' = ((r.withPath front p back).run i.config).outcome s := run_eq_outcome hi' rfl s
  rw [ho, ho']
  refine ⟨front, back, hpaths, hi', fun e he => ⟨?_, ?_⟩, fun again hagain => ⟨?_, ?_⟩⟩
  · exact exit_run_of_walk_eq_error hscope' he (by simp [CheckRequest.withPath])
  · refine (hp.of_walk_eq_error htree he).imp_left ?_
    rintro ⟨path, hpath, e', he'⟩
    exact exit_run_of_walk_eq_error hscope he' hpath
  · refine (exit_run_withPath hscope hpaths htree hp hagain).imp_right ?_
    rintro ⟨hzero, hone, honly⟩
    exact ⟨hzero, hone, honly.ne, honly⟩
  · intro c result _ hreview
    obtain ⟨reviewer, fs₁, fs₂, hreviewer, rfl, hreview', hsame⟩ :=
      exists_review_again hscope hpaths htree hp hagain hreview
    obtain ⟨hunscoped, hdedupe⟩ := CheckRequest.withExcludes_fullReviewer hreviewer
    rw [← hdedupe]
    refine ⟨reviewer, _, hreviewer, hreview', reviewer.files_review_again s.tree,
      reviewer.violations_review_again s.tree, fun hone hdisplay => ?_, reviewer.review_again_eq_iff s.tree⟩
    refine reviewer.key_violations_review_again s.tree (fun f hf v hv => ?_) hone
    obtain ⟨g, hg, hfg⟩ := hsame f hf
    have hshown : Path.display f = Path.display g := by
      rcases hdisplay with rfl | hdisplay
      · rw [hfg.eq]
      · exact hdisplay f hf g hfg
    exact ⟨g, hg, reviewer.mem_found_of_display_eq s.tree hunscoped htree hfg.isFile hfg.place hshown hv⟩

/-- The header is found by the walk of the working directory. -/
theorem repeats_binarySurroundings : Repeats binarySurroundings.tree ["."] "/w/a.h" "./a.h" := by
  have hfound : FoundBelow binarySurroundings.tree "." "./a.h" := by
    refine ⟨by decide, ["w"], ["a.h"], .file [0], by decide +kernel, by decide +kernel, by simp, ?_, ?_, ?_⟩
    all_goals decide +kernel
  exact ⟨.inr ⟨".", by simp, hfound⟩, by decide +kernel, by decide⟩

/-- A header that is given from the root, beside the directory it stands in, is counted again, and the exit
code stays. -/
theorem run_repeatedPath_binarySurroundings :
    let s := binarySurroundings
    let r : CheckRequest := { paths := ["."] }
    let r' : CheckRequest := { paths := [".", "/w/a.h"] }
    (run ["check", ".", "/w/a.h"] s).exit = (run ["check", "."] s).exit ∧
    ∃ c result result', Configuration.load s.tree s.userConfig none = .ok c ∧
      r.review s c = .ok result ∧ r'.review s c = .ok result' ∧ result'.files = result.files + 1 := by
  intro s r r'
  have hwalk : walk s.tree "/w/a.h" = .ok ["/w/a.h"] := by decide +kernel
  have hdirectory : (walk s.tree ".").isOk = true := by decide +kernel
  have hreviewer : ((Configuration.load s.tree s.userConfig none).toOption.bind fun c =>
      ((r.fullReviewer c).withExcludes r.exclude).toOption.map fun reviewer =>
        (reviewer.selects "/w/a.h", reviewer.isExcluded "./a.h")) = some (true, false) := by
    decide +kernel
  have hi : Invocation.ofArguments ["check", "."] = .ok ⟨false, none, .check r⟩ := by decide +kernel
  have hi' : Invocation.ofArguments ["check", ".", "/w/a.h"] = .ok ⟨false, none, .check r'⟩ := by
    decide +kernel
  have hread : readArguments {} ["check", "."] = .ok { action := some .check, paths := ["."] } := by
    decide +kernel
  have hadvance : ["check", "."].foldlM Reading.advance {} =
      .ok { action := some .check, paths := ["."] } := by
    decide +kernel
  have hhead : "/w/a.h".toList.head? = some '/' := by decide +kernel
  have hawaits : Reading.AwaitsPath { action := some .check, paths := ["."] } "/w/a.h" := by
    refine ⟨rfl, rfl, by decide, fun _ c cs h => ?_⟩
    simp [h] at hhead
  obtain ⟨front, back, -, hinsert, -, hagain⟩ := @run_repeatedPath ["check", "."] [] _ "/w/a.h" "./a.h" _ r s
    hadvance hawaits hi rfl ⟨_, hread, by simp⟩ rfl (by decide +kernel) repeats_binarySurroundings
  have hwith : r.withPath front "/w/a.h" back = r' := by
    simpa using hinsert.symm.trans hi'
  obtain ⟨hexit, hresult⟩ := hagain _ hwalk
  rw [hwith] at hresult
  cases hload : Configuration.load s.tree s.userConfig none with
  | error e => simp [hload, Except.toOption] at hreviewer
  | ok c =>
    cases hglobs : (r.fullReviewer c).withExcludes r.exclude with
    | error e => simp [hload, hglobs, Except.toOption] at hreviewer
    | ok reviewer =>
      simp only [hload, hglobs, Except.toOption, Option.bind_some, Option.map_some, Option.some.injEq,
        Prod.mk.injEq] at hreviewer
      obtain ⟨hselects, hexcluded⟩ := hreviewer
      cases hfound : walk s.tree "." with
      | error e => simp [hfound, Except.isOk, Except.toBool] at hdirectory
      | ok fs =>
        have hreview : r.review s c = .ok _ := (CheckRequest.review_eq_ok_iff rfl).2
          ⟨[fs], reviewer, mapM_eq_ok_iff.2 (by simp [r, hfound]), hglobs, rfl⟩
        obtain ⟨reviewer', result', hglobs', hreview', hfiles, -⟩ := hresult c _ hload hreview
        obtain rfl := Except.ok.inj (hglobs.symm.trans hglobs')
        refine ⟨hexit.resolve_right ?_, c, _, result', rfl, hreview, hreview', ?_⟩
        · -- the header is left out under neither path
          rintro ⟨-, -, -, c', reviewer', hload', hglobs', f, -, g, hfg, hg, -⟩
          obtain rfl := Except.ok.inj (hload.symm.trans hload')
          obtain rfl := Except.ok.inj (hglobs.symm.trans hglobs')
          rcases hfg.spelled with ⟨-, rfl⟩ | ⟨hdir, -⟩
          · rw [hexcluded] at hg
            cases hg
          · exact absurd hdir (by decide +kernel)
        · simpa [hselects] using hfiles

end Command

end Guideline
