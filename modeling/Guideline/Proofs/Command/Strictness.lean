import Guideline.Proofs.Command.Reading
import Guideline.Proofs.Command.Run

/-!
# Failing on warnings

A check that is told to fail on warnings reviews and reports as it would without, and only its exit
code may differ (`run_failOnWarnings`). The switch takes the place of the threshold in the settings,
so it does not always make a check stricter: if the settings let a check fail on mere advice and
advice is all there is, the check passes with the switch and fails without.
-/

namespace Guideline

/-- What a review finds does not depend on when the run fails. -/
theorem Reviewer.withExcludes_review_failOn (r : Reviewer) (failOn : Option Severity)
    (patterns : List String) (tree : FileTree) (paths : List String) :
    ((withExcludes { r with settings := { r.settings with failOn } } patterns).map
        fun r => r.review tree paths) =
      (r.withExcludes patterns).map fun r => r.review tree paths := by
  unfold withExcludes
  cases (patterns ++ r.settings.exclude).mapM Glob.ofSource <;> rfl

/-- A result that fails at the threshold `t`, but not at warnings. -/
theorem ReviewResult.failsAt_and_not_warning_iff {result : ReviewResult} {t : Severity} :
    result.failsAt t = true ∧ result.failsAt .warning = false ↔
      t = .info ∧ result.violations ≠ [] ∧ ∀ v ∈ result.violations, v.severity = .info := by
  have hwarning : result.failsAt .warning = false ↔ ∀ v ∈ result.violations, v.severity = .info := by
    rw [failsAt, List.any_eq_false]
    refine forall₂_congr fun v _ => ?_
    cases v.severity <;> decide
  rw [hwarning, ← and_assoc]
  refine and_congr_left fun hinfo => ?_
  rw [failsAt, List.any_eq_true]
  constructor
  · rintro ⟨v, hv, hle⟩
    rw [hinfo v hv] at hle
    exact ⟨by cases t <;> first | rfl | exact absurd hle (by decide), List.ne_nil_of_mem hv⟩
  · rintro ⟨rfl, hne⟩
    obtain ⟨v, hv⟩ := List.exists_mem_of_ne_nil _ hne
    exact ⟨v, hv, by rw [hinfo v hv]; decide⟩

namespace Command

theorem CheckRequest.review_failOnWarnings (r : CheckRequest) (flag : Bool) (s : Surroundings)
    (c : Configuration) : ({ r with failOnWarnings := flag } : CheckRequest).review s c = r.review s c := by
  have hreview : ∀ (r : CheckRequest), r.review s c = (do
      let scope ← r.scope s
      let files ← r.files s scope
      let reviewer : Reviewer := { rules := c.rules, settings := c.settings, scope }
      ((reviewer.withExcludes r.exclude).map
        fun reviewer => reviewer.review s.tree files).mapError .exclude) := by
    intro r
    unfold CheckRequest.review
    refine bind_congr fun scope => bind_congr fun files => ?_
    have hsettings : ∃ failOn, r.settings c = { c.settings with failOn } := by
      unfold CheckRequest.settings
      split_ifs
      · exact ⟨_, rfl⟩
      · exact ⟨c.settings.failOn, rfl⟩
    obtain ⟨failOn, hsettings⟩ := hsettings
    dsimp only
    rw [hsettings, ← Reviewer.withExcludes_review_failOn _ failOn]
    cases Reviewer.withExcludes _ r.exclude <;> rfl
  rw [hreview, hreview]
  rfl

theorem CheckRequest.reviewAndEmit_failOnWarnings (r : CheckRequest) (flag : Bool) :
    ({ r with failOnWarnings := flag } : CheckRequest).reviewAndEmit = r.reviewAndEmit := by
  funext config
  simp only [reviewAndEmit, review_failOnWarnings]
  rfl

/-! ### Outcomes -/

section

variable {α : Type} {x : RunM α} {s : Surroundings} {p : Progress}

theorem RunM.outcome_bind_pure_of_ok {a : α} (hx : ExceptT.run x { now := s } = (.ok a, p))
    (code : α → Nat) : (x >>= fun a => pure (code a)).outcome s =
      { exit := code a, stdout := p.stdout, tree := p.now.tree, gitArguments := p.gitArguments } := by
  have hrun : ExceptT.run (x >>= fun a => pure (code a)) { now := s } = (.ok (code a), p) :=
    run_bind_of_ok hx
  rw [outcome, hrun]

theorem RunM.outcome_bind_pure_of_error {e : Failure}
    (hx : ExceptT.run x { now := s } = (.error e, p)) (code : α → Nat) :
    (x >>= fun a => pure (code a)).outcome s =
      { exit := 2, stdout := p.stdout, failure := some e, tree := p.now.tree,
        gitArguments := p.gitArguments } := by
  have hrun : ExceptT.run (x >>= fun a => pure (code a)) { now := s } = (.error e, p) :=
    run_bind_of_error hx
  rw [outcome, hrun]

end

theorem run_of_check {arguments : List String} {i : Invocation} {r : CheckRequest}
    (hi : Invocation.ofArguments arguments = .ok i) (hr : i.request = .check r) (s : Surroundings) :
    run arguments s =
      (r.reviewAndEmit i.config >>= fun found => pure (r.exitCode found)).outcome s := by
  rw [run_eq_outcome hi hr, r.run_eq_bind]

theorem Settings.threshold_eq_info_iff {s : Settings} : s.threshold = .info ↔ s.failOn = some .info := by
  rw [Settings.threshold]
  cases s.failOn <;> simp

/-- A check that is told to fail on warnings prints, writes and asks for the same as without, and fails
for the same reasons. It exits with another code than 1 where it exited with 1 before if and only if
the settings let it fail on advice, and the report holds advice and nothing else. -/
theorem run_failOnWarnings {before after : List String} {place : Reading} {i : Invocation}
    {r : CheckRequest} (hbefore : before.foldlM Reading.advance {} = .ok place)
    (hplace : place.AwaitsSwitch) (hi : Invocation.ofArguments (before ++ after) = .ok i)
    (hr : i.request = .check r) (hflag : r.failOnWarnings = false) (s : Surroundings) :
    let o := run (before ++ after) s
    let o' := run (before ++ "--fail-on-warnings" :: after) s
    o' = { o with exit := o'.exit } ∧
    (o.exit = 1 ∧ o'.exit ≠ 1 ↔ o.failure = none ∧ ∃ c result,
      Configuration.load s.tree s.userConfig i.config = .ok c ∧ r.review s c = .ok result ∧
      c.settings.failOn = some .info ∧ result.violations ≠ [] ∧
      ∀ v ∈ result.violations, v.severity = .info) := by
  intro o o'
  have hi' := Invocation.ofArguments_insert hbefore hplace hi hr hflag
  have ho : o = _ := run_of_check hi hr s
  have ho' : o' = _ := run_of_check hi' rfl s
  rw [CheckRequest.reviewAndEmit_failOnWarnings] at ho'
  rcases hx : ExceptT.run (r.reviewAndEmit i.config) { now := s } with ⟨e | ⟨c, result⟩, p⟩
  · rw [RunM.outcome_bind_pure_of_error hx] at ho ho'
    rw [ho, ho']
    simp
  · rw [RunM.outcome_bind_pure_of_ok hx] at ho ho'
    obtain ⟨hload, hreview, -⟩ := (r.ends_reviewAndEmit i.config).ok _ _ hx
    rw [ho, ho']
    refine ⟨rfl, ?_⟩
    have hwithout : r.exitCode (c, result) = 1 ↔ result.failsAt c.settings.threshold = true := by
      simp [CheckRequest.exitCode, CheckRequest.settings, hflag]
    have hwith : ({ r with failOnWarnings := true } : CheckRequest).exitCode (c, result) ≠ 1 ↔
        result.failsAt .warning = false := by
      simp [CheckRequest.exitCode, CheckRequest.settings, Settings.threshold]
    show r.exitCode (c, result) = 1 ∧ _ ↔ _
    rw [hwithout, hwith, ReviewResult.failsAt_and_not_warning_iff, Settings.threshold_eq_info_iff]
    constructor
    · exact fun h => ⟨rfl, c, result, hload, hreview, h⟩
    · rintro ⟨-, c', result', hload', hreview', h⟩
      obtain rfl : c = c' := Except.ok.inj (hload.symm.trans hload')
      obtain rfl : result = result' := Except.ok.inj (hreview.symm.trans hreview')
      exact h

/-- A header that is no text, where a check fails on advice. -/
def adviceSurroundings : Surroundings where
  tree := {
    entries := [(["w"], .directory), (["w", "a.h"], .file [0]),
      (["advice.toml"], .file (Text.encode "base=\"empty\"\nfail_on=\"info\"".toList))]
    home := ["w"] }

/-- The check fails on the header, and passes with the switch. -/
theorem run_failOnWarnings_adviceSurroundings :
    let s := adviceSurroundings
    let o := run ["--config", "../advice.toml", "check", "/w/a.h"] s
    let o' := run ["--config", "../advice.toml", "check", "--fail-on-warnings", "/w/a.h"] s
    o' = { o with exit := o'.exit } ∧ o.exit = 1 ∧ o'.exit = 0 ∧ ∃ c result,
      Configuration.load s.tree s.userConfig (some "../advice.toml") = .ok c ∧
      CheckRequest.review { paths := ["/w/a.h"] } s c = .ok result ∧
      c.settings.failOn = some .info ∧ result.violations ≠ [] ∧
      ∀ v ∈ result.violations, v.severity = .info := by
  intro s o o'
  have hone : o.exit = 1 := by decide +kernel
  have hzero : o'.exit = 0 := by decide +kernel
  have hne : o'.exit ≠ 1 := by rw [hzero]; decide
  obtain ⟨hsame, hiff⟩ := @run_failOnWarnings ["--config", "../advice.toml", "check"] ["/w/a.h"]
    { action := some .check, outer := [(.config, "../advice.toml")] }
    ⟨false, some "../advice.toml", .check { paths := ["/w/a.h"] }⟩ { paths := ["/w/a.h"] }
    (by decide +kernel) ⟨rfl, rfl, rfl⟩ (by decide +kernel) rfl rfl s
  obtain ⟨-, hfound⟩ := hiff.1 ⟨hone, hne⟩
  exact ⟨hsame, hone, hzero, hfound⟩

end Command

end Guideline
