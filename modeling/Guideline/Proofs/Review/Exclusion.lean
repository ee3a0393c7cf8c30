import Guideline.Proofs.Except
import Guideline.Proofs.Glob.Directory
import Guideline.Review.Reviewer

/-!
# Files that are left out

A reviewer leaves out the paths that its globs match, and beyond that the paths below the directory of
a glob, wherever that directory stands (`isExcluded_iff`). For globs that start and end with `**`, such
as `**/build/**`, the second adds nothing. A glob that is anchored at a directory, such as `gen/**`,
leaves out directories of that name further down, which it does not match.
-/

namespace Guideline

namespace Path

/-- Every text without backslashes is shown for some path. -/
theorem exists_display_eq {shown : List Char} (h : '\\' ∉ shown) :
    ∃ path, (display path).toList = shown := by
  refine ⟨String.ofList ('.' :: '/' :: shown), ?_⟩
  have hmap : shown.map (fun c => if c = '\\' then '/' else c) = shown := by
    refine (List.map_congr_left fun c hc => if_neg ?_).trans (List.map_id shown)
    rintro rfl
    exact h hc
  simp [display, hmap, Text.after?]

end Path

namespace Glob

/-- On paths, a glob without brackets leaves out what it matches and no more if and only if it has no
directory, or starts and ends with `**`. -/
theorem excludes_eq_isMatch_iff {g : Glob} (hg : read 0 none [] g.source.toList = .ok g.tokens)
    (hbracket : '[' ∉ g.source.toList) (hback : '\\' ∉ g.source.toList) :
    (∀ path, g.excludes (Path.display path).toList = g.isMatch (Path.display path).toList) ↔
      g.directory? = none ∨ g.IsUnanchored := by
  constructor
  · intro h
    by_contra hcontra
    rw [not_or, IsUnanchored, not_and_or] at hcontra
    obtain ⟨hsome, hanchor⟩ := hcontra
    obtain ⟨dir, hdir⟩ := Option.ne_none_iff_exists'.1 hsome
    have hback' : '\\' ∉ dir := fun hmem => (mem_of_mem_directory hdir hmem).elim (by decide) hback
    have hmatch : ∀ shown, '\\' ∉ shown → dir <+: shown ∨ ('/' :: dir) <:+: shown →
        g.isMatch shown = true := by
      intro shown hshown hbelow
      obtain ⟨path, rfl⟩ := Path.exists_display_eq hshown
      rw [← h path]
      exact excludes_iff.2 (.inr ⟨dir, hdir, (isMatch_below (directory?_ne_nil hdir)).2 hbelow⟩)
    rcases hanchor with hhead | hlast
    · obtain ⟨n, hn⟩ := exists_missed_of_head hg hbracket hdir hhead
      rw [hmatch _ (by simp [hback']) (.inr (List.suffix_append ..).isInfix)] at hn
      cases hn
    · have hmiss := not_isMatch_of_getLast? hg hbracket hdir hlast
      rw [hmatch _ (by simp [hback']) (.inl (List.prefix_append ..))] at hmiss
      cases hmiss
  · rintro hglob path
    rw [Bool.eq_iff_iff, excludes_iff, or_iff_left_iff_imp]
    rintro ⟨dir, hdir, hshown⟩
    rcases hglob with hnone | hun
    · rw [hnone] at hdir
      cases hdir
    · exact isMatch_of_isUnanchored hg hbracket hdir hun hshown

/-! ### Globs of one directory -/

/-- A text without characters that mean something in a glob. -/
def IsLiteral (cs : List Char) : Prop :=
  ∀ c ∈ cs, c ≠ '*' ∧ c ≠ '?' ∧ c ≠ '['

theorem read_literal {cs : List Char} (h : IsLiteral cs) (position : Nat) (before : Option Char)
    (tokens : List Token) (rest : List Char) :
    read position before tokens (cs ++ rest) =
      read (position + cs.length) (cs.getLast?.or before) (cs.reverse.map .char ++ tokens) rest := by
  induction cs generalizing position before tokens with
  | nil => rfl
  | cons c cs ih =>
    obtain ⟨hstar, hany, hbracket⟩ := h c (List.mem_cons_self ..)
    have hrest := ih (fun d hd => h d (List.mem_cons_of_mem _ hd)) (position + 1) (some c) (.char c :: tokens)
    have hlast : (c :: cs).getLast?.or before = cs.getLast?.or (some c) := by
      rw [List.getLast?_cons]
      cases cs.getLast? <;> rfl
    rw [List.cons_append, read]
    simp only [hany, hbracket, hstar, if_false, ne_eq, not_false_eq_true, if_true, hrest, hlast]
    simp [Nat.add_assoc, Nat.add_comm 1]

theorem isLiteral_append_slash {dir : List Char} (h : IsLiteral dir) : IsLiteral (dir ++ ['/']) := by
  intro c hc
  rcases List.mem_append.1 hc with hc | hc
  · exact h c hc
  · obtain rfl := List.mem_singleton.1 hc
    decide

variable {g : Glob} {dir : List Char} (hdir : IsLiteral dir)
  (hsource : g.source.toList = dir ++ ['/', '*', '*'])
include hdir hsource

/-- The glob `dir/**` matches what starts with `dir/`. -/
theorem isMatch_directory (hg : read 0 none [] g.source.toList = .ok g.tokens) {shown : List Char} :
    g.isMatch shown = true ↔ (dir ++ ['/']) <+: shown := by
  have htokens : g.tokens = (dir ++ ['/']).map .char ++ [.anyComponents] := by
    rw [hsource, show dir ++ ['/', '*', '*'] = (dir ++ ['/']) ++ ['*', '*'] by simp,
      read_literal (isLiteral_append_slash hdir), List.getLast?_concat, read] at hg
    simpa [addComponents, eq_comm] using hg
  rw [isMatch, htokens, tokensMatch_chars_append]
  simp only [tokensMatch_last_anyComponents, and_true]
  exact exists_congr fun rest => eq_comm

theorem directory?_directory : g.directory? = some (dir ++ ['/']) := by
  have hstar : '*' ∉ dir := fun h => (hdir '*' h).1 rfl
  refine directory?_eq_some_iff.2 ⟨?_, by simp, by simp [hstar]⟩
  have hfirst : Text.replaceAll ['*', '*', '/'] [] (dir ++ ['/', '*', '*']) = dir ++ ['/', '*', '*'] := by
    refine Text.replaceAll_append [] ?_
    rintro s (_ | ⟨c, t⟩) rfl hne hpre
    · exact hne rfl
    · obtain ⟨rfl, -⟩ := List.cons_prefix_cons.1 hpre
      exact hstar (by simp)
  rw [bareSource, hsource, hfirst]
  exact replaceAll_slash_components fun h => hstar (h.subset (by simp))

/-- The glob `dir/**` leaves out what lies below a directory `dir` anywhere. -/
theorem excludes_directory (hg : read 0 none [] g.source.toList = .ok g.tokens) {shown : List Char} :
    g.excludes shown = true ↔ (dir ++ ['/']) <+: shown ∨ ('/' :: (dir ++ ['/'])) <:+: shown := by
  rw [excludes_iff, isMatch_directory hdir hsource hg, directory?_directory hdir hsource]
  simp only [Option.mem_def, Option.some.injEq, exists_eq_left', isMatch_below (by simp : dir ++ ['/'] ≠ [])]
  tauto

end Glob

/-- A reviewer leaves out a path if one of its globs matches it, or if it lies below the directory of one
of them, wherever that stands. A glob without brackets and backslashes leaves out just the paths that it
matches if and only if it has no directory, or starts and ends with `**`. In particular the glob `dir/**`
matches the paths that start with `dir/`, but leaves out all in which `dir/` stands behind a `/`. -/
theorem Reviewer.isExcluded_iff {r r' : Reviewer} {patterns : List String}
    (hr : r.withExcludes patterns = .ok r') :
    (∀ path, r'.isExcluded path = true ↔ ∃ g ∈ r'.exclude, g.isMatch (Path.display path).toList = true ∨
      ∃ dir ∈ g.directory?, (Glob.below dir).isMatch (Path.display path).toList = true) ∧
    (∀ g ∈ r'.exclude, '[' ∉ g.source.toList → '\\' ∉ g.source.toList →
      ((∀ path, g.excludes (Path.display path).toList = g.isMatch (Path.display path).toList) ↔
        g.directory? = none ∨ g.IsUnanchored)) ∧
    ∀ g ∈ r'.exclude, ∀ dir, Glob.IsLiteral dir → g.source.toList = dir ++ ['/', '*', '*'] → ∀ shown,
      (g.isMatch shown = true ↔ (dir ++ ['/']) <+: shown) ∧
      (g.excludes shown = true ↔ (dir ++ ['/']) <+: shown ∨ ('/' :: (dir ++ ['/'])) <:+: shown) := by
  have hread : ∀ g ∈ r'.exclude, Glob.read 0 none [] g.source.toList = .ok g.tokens := by
    obtain ⟨globs, hglobs, hr'⟩ := bind_eq_ok_iff.1 hr
    obtain rfl := Except.ok.inj hr'
    intro g hg
    obtain ⟨source, -, hsource⟩ := (mem_iff_of_mapM_eq_ok hglobs).1 hg
    obtain ⟨rfl, hread⟩ := Glob.ofSource_eq_ok_iff.1 hsource
    exact hread
  refine ⟨fun path => ?_, fun g hg => Glob.excludes_eq_isMatch_iff (hread g hg), ?_⟩
  · rw [isExcluded, List.any_eq_true]
    exact exists_congr fun g => and_congr_right fun _ => Glob.excludes_iff
  · intro g hg dir hdir hsource shown
    exact ⟨Glob.isMatch_directory hdir hsource (hread g hg),
      Glob.excludes_directory hdir hsource (hread g hg)⟩

/-- The glob of the directory `gen` at the top. -/
def Glob.generated : Glob where
  source := "gen/**"
  tokens := [.char 'g', .char 'e', .char 'n', .char '/', .anyComponents]

/-- Leaving out the directory `gen` at the top leaves out another one that the glob does not match. -/
theorem Reviewer.isExcluded_generated :
    let r : Reviewer := { rules := ⟨[]⟩, settings := { exclude := [] } }
    let r' : Reviewer := { r with exclude := [.generated] }
    r.withExcludes ["gen/**"] = .ok r' ∧ r'.isExcluded "src/gen/a.h" = true ∧
      ¬ ∃ g ∈ r'.exclude, g.isMatch (Path.display "src/gen/a.h").toList = true := by
  intro r r'
  have hglob : Glob.ofSource "gen/**" = .ok .generated := by decide +kernel
  have hr : r.withExcludes ["gen/**"] = .ok r' := by
    show (["gen/**"].mapM Glob.ofSource >>= _) = _
    rw [List.mapM_cons, hglob]
    rfl
  refine ⟨hr, ((isExcluded_iff hr).1 _).2
    ⟨.generated, List.mem_singleton.2 rfl, .inr ⟨"gen/".toList, ?_⟩⟩, ?_⟩
  · decide +kernel
  · simp only [r', List.mem_singleton, exists_eq_left]
    decide +kernel

end Guideline
