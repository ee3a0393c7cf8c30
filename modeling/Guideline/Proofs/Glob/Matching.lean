import Guideline.Glob
import Guideline.Proofs.Text.Affix

/-!
# What globs match

The meaning of the tokens of a glob in terms of how the text is put together: plain tokens take one
character each, and `**` takes any number of components. The glob `below dir` is the one for the
directory `dir` and all below it, wherever the directory stands.
-/

namespace Guideline.Glob

theorem mem_componentEndings_iff {atStart : Bool} {cs e : List Char} :
    e ∈ componentEndings atStart cs ↔
      e = [] ∨ (atStart = true ∧ e = cs) ∨ ∃ above, cs = above ++ '/' :: e := by
  induction cs generalizing atStart with
  | nil => simp [componentEndings]
  | cons c cs ih =>
    have hmore : e ∈ componentEndings (c = '/') cs ↔ e = [] ∨ ∃ above, c :: cs = above ++ '/' :: e := by
      rw [ih]
      refine or_congr_right ⟨?_, ?_⟩
      · rintro (⟨hc, rfl⟩ | ⟨above, rfl⟩)
        · exact ⟨[], by rw [of_decide_eq_true hc]; rfl⟩
        · exact ⟨c :: above, rfl⟩
      · rintro ⟨_ | ⟨a, above⟩, heq⟩
        · obtain ⟨rfl, rfl⟩ := List.cons.inj heq
          exact .inl ⟨rfl, rfl⟩
        · obtain ⟨rfl, rfl⟩ := List.cons.inj heq
          exact .inr ⟨above, rfl⟩
    rw [componentEndings]
    cases atStart with
    | true => simp only [if_true, List.mem_cons, hmore, true_and]; tauto
    | false => simp [hmore]

theorem self_mem_componentEndings (cs : List Char) : cs ∈ componentEndings true cs :=
  mem_componentEndings_iff.2 (.inr (.inl ⟨rfl, rfl⟩))

theorem isSuffix_of_mem_componentEndings {atStart : Bool} {cs e : List Char}
    (h : e ∈ componentEndings atStart cs) : e <:+ cs := by
  rcases mem_componentEndings_iff.1 h with rfl | ⟨-, rfl⟩ | ⟨above, rfl⟩
  · exact List.nil_suffix
  · exact List.suffix_rfl
  · exact ⟨above ++ ['/'], by simp⟩

theorem mem_endings_iff {cs e : List Char} : e ∈ Text.endings cs ↔ e <:+ cs := by
  induction cs with
  | nil => simp [Text.endings]
  | cons c cs ih => rw [Text.endings, List.mem_cons, ih, List.suffix_cons_iff]

theorem tokensMatch_anyComponents {ts : List Token} {cs : List Char} :
    tokensMatch (.anyComponents :: ts) cs = true ↔
      ∃ e ∈ componentEndings true cs, tokensMatch ts e = true := by
  rw [tokensMatch, List.any_eq_true]

/-- `**` at the end takes all that is left. -/
theorem tokensMatch_last_anyComponents (cs : List Char) : tokensMatch [.anyComponents] cs = true :=
  tokensMatch_anyComponents.2 ⟨[], mem_componentEndings_iff.2 (.inl rfl), rfl⟩

theorem tokensMatch_chars_append {chars : List Char} {ts : List Token} {cs : List Char} :
    tokensMatch (chars.map .char ++ ts) cs = true ↔
      ∃ rest, cs = chars ++ rest ∧ tokensMatch ts rest = true := by
  induction chars generalizing cs with
  | nil => simp
  | cons c chars ih =>
    cases cs with
    | nil => simp [tokensMatch]
    | cons d cs => simp [tokensMatch, ih, and_assoc]

/-- Tokens that take one character each. -/
def Token.IsPlain : Token → Prop
  | .char _ | .anyChar => True
  | _ => False

theorem Token.IsPlain.eq {t : Token} (h : t.IsPlain) : (∃ c, t = .char c) ∨ t = .anyChar := by
  cases t with
  | char c => exact .inl ⟨c, rfl⟩
  | anyChar => exact .inr rfl
  | anySequence | anyComponents | within _ | except _ => exact h.elim

/-- A plain token takes the first character. -/
theorem exists_cons_of_tokensMatch {t : Token} (ht : t.IsPlain) {ts : List Token} {cs : List Char}
    (h : tokensMatch (t :: ts) cs = true) : ∃ c rest, cs = c :: rest ∧ tokensMatch ts rest = true := by
  cases cs with
  | nil => rcases ht.eq with ⟨d, rfl⟩ | rfl <;> simp [tokensMatch] at h
  | cons c rest =>
    refine ⟨c, rest, rfl, ?_⟩
    rcases ht.eq with ⟨d, rfl⟩ | rfl
    · rw [tokensMatch, Bool.and_eq_true] at h
      exact h.2
    · exact h

theorem exists_append_of_tokensMatch {ts ts' : List Token} (hts : ∀ t ∈ ts, t.IsPlain) {cs : List Char}
    (h : tokensMatch (ts ++ ts') cs = true) :
    ∃ a b, cs = a ++ b ∧ a.length = ts.length ∧ tokensMatch ts' b = true := by
  induction ts generalizing cs with
  | nil => exact ⟨[], cs, rfl, rfl, h⟩
  | cons t ts ih =>
    obtain ⟨c, cs, rfl, hcs⟩ := exists_cons_of_tokensMatch (hts t (List.mem_cons_self ..)) h
    obtain ⟨a, b, rfl, hlength, hb⟩ := ih (fun t ht => hts t (List.mem_cons_of_mem _ ht)) hcs
    exact ⟨c :: a, b, rfl, by simp [hlength], hb⟩

/-- A text that is matched up to a last character ends in that character. -/
theorem getLast?_of_tokensMatch {ts : List Token} {c : Char} {cs : List Char}
    (h : tokensMatch (ts ++ [.char c]) cs = true) : cs.getLast? = some c := by
  induction ts generalizing cs with
  | nil =>
    obtain ⟨rest, rfl, hrest⟩ := (@tokensMatch_chars_append [c] [] cs).1 h
    rw [tokensMatch, List.isEmpty_iff] at hrest
    simp [hrest]
  | cons t ts ih =>
    -- whatever the first token takes, an ending is left that the others match
    have hending : ∃ e, e <:+ cs ∧ tokensMatch (ts ++ [.char c]) e = true := by
      cases t with
      | anyComponents =>
        obtain ⟨e, he, hmatch⟩ := tokensMatch_anyComponents.1 h
        exact ⟨e, isSuffix_of_mem_componentEndings he, hmatch⟩
      | anySequence =>
        rw [List.cons_append, tokensMatch, List.any_eq_true] at h
        obtain ⟨e, he, hmatch⟩ := h
        exact ⟨e, mem_endings_iff.1 he, hmatch⟩
      | char _ | anyChar | within _ | except _ =>
        cases cs with
        | nil => simp [tokensMatch] at h
        | cons d cs =>
          refine ⟨cs, List.suffix_cons d cs, ?_⟩
          simp_all [tokensMatch]
    obtain ⟨e, ⟨a, rfl⟩, hmatch⟩ := hending
    rw [List.getLast?_append, ih hmatch]
    rfl

/-! ### Directories -/

/-- The glob of the directory `dir`, with a `/` at its end, and of all below it. -/
def below (dir : List Char) : Glob where
  source := "**/" ++ String.ofList dir ++ "**"
  tokens := .anyComponents :: (dir.map .char ++ [.anyComponents])

theorem isMatch_below_iff_ending {dir shown : List Char} :
    (below dir).isMatch shown = true ↔ ∃ rest, dir ++ rest ∈ componentEndings true shown := by
  rw [isMatch, below, tokensMatch_anyComponents]
  simp only [tokensMatch_chars_append, tokensMatch_last_anyComponents, and_true]
  constructor
  · rintro ⟨_, he, rest, rfl⟩
    exact ⟨rest, he⟩
  · rintro ⟨rest, he⟩
    exact ⟨_, he, rest, rfl⟩

theorem isMatch_below {dir shown : List Char} (hdir : dir ≠ []) :
    (below dir).isMatch shown = true ↔ dir <+: shown ∨ ('/' :: dir) <:+: shown := by
  simp only [isMatch_below_iff_ending, mem_componentEndings_iff]
  constructor
  · rintro ⟨rest, hnil | ⟨-, rfl⟩ | ⟨above, rfl⟩⟩
    · exact absurd (List.append_eq_nil_iff.1 hnil).1 hdir
    · exact .inl (List.prefix_append ..)
    · exact .inr ⟨above, rest, by simp⟩
  · rintro (⟨rest, rfl⟩ | ⟨above, rest, rfl⟩)
    · exact ⟨rest, .inr (.inl ⟨trivial, rfl⟩)⟩
    · exact ⟨rest, .inr (.inr ⟨above, by simp⟩)⟩

/-- The source of a glob without its `**`. -/
def bareSource (g : Glob) : List Char :=
  Text.replaceAll ['/', '*', '*'] ['/'] (Text.replaceAll ['*', '*', '/'] [] g.source.toList)

theorem directory?_eq_some_iff {g : Glob} {dir : List Char} :
    g.directory? = some dir ↔ g.bareSource = dir ∧ dir.getLast? = some '/' ∧ '*' ∉ dir := by
  show (if _ then some g.bareSource else none) = some dir ↔ _
  simp only [Option.ite_none_right_eq_some, Option.some.injEq, Text.endsWithChar, Bool.and_eq_true,
    beq_iff_eq, Bool.not_eq_true', List.contains_eq_mem, decide_eq_false_iff_not]
  constructor
  · rintro ⟨h, rfl⟩
    exact ⟨rfl, h⟩
  · rintro ⟨rfl, h⟩
    exact ⟨h, rfl⟩

theorem directory?_ne_nil {g : Glob} {dir : List Char} (h : g.directory? = some dir) : dir ≠ [] := by
  rintro rfl
  simpa using (directory?_eq_some_iff.1 h).2.1

theorem mem_of_mem_directory {g : Glob} {dir : List Char} (h : g.directory? = some dir) {c : Char}
    (hc : c ∈ dir) : c = '/' ∨ c ∈ g.source.toList := by
  rw [← (directory?_eq_some_iff.1 h).1] at hc
  rcases Text.mem_of_mem_replaceFrom hc with hc | hc
  · exact .inl (List.mem_singleton.1 hc)
  · exact .inr ((Text.mem_of_mem_replaceFrom hc).resolve_left List.not_mem_nil)

/-- A glob leaves out what it matches, and what lies below its directory wherever that stands. -/
theorem excludes_iff {g : Glob} {shown : List Char} :
    g.excludes shown = true ↔
      g.isMatch shown = true ∨ ∃ dir ∈ g.directory?, (below dir).isMatch shown = true := by
  rw [excludes, Bool.or_eq_true, Option.any_eq_true]
  refine or_congr_right (exists_congr fun dir => and_congr_right fun hdir => ?_)
  rw [isMatch_below (directory?_ne_nil hdir), Bool.or_eq_true, Text.startsWith_iff, Text.occurs_iff]

end Guideline.Glob
