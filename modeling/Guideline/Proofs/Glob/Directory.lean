import Guideline.Proofs.Glob.Matching
import Mathlib.Data.List.Chain

/-!
# The directory of a glob

The directory of a glob is found in its source, by taking out `**` and looking for other wildcards. In
a glob without brackets that text is the text of its tokens (`bareSource_eq_bareText`). So the
directory says what the glob says if the glob starts and ends with `**`, and only then
(`excludes_eq_isMatch_iff`): it forgets where the glob is anchored.
-/

namespace Guideline.Glob

/-- The characters that stand for a token in the source of a glob; none for `**`. -/
def Token.text : Token → List Char
  | .char c => [c]
  | .anyChar => ['?']
  | .anySequence => ['*']
  | .anyComponents => []
  | .within _ | .except _ => ['[']

theorem Token.IsPlain.eq_char_of_text {t : Token} (h : t.IsPlain) (htext : t.text.getLast? = some '/') :
    t = .char '/' := by
  rcases h.eq with ⟨c, rfl⟩ | rfl
  · exact congrArg Token.char (Option.some.inj htext)
  · exact absurd (Option.some.inj htext) (by decide)

/-- The text of tokens without `**`. -/
def bareText (tokens : List Token) : List Char :=
  tokens.flatMap Token.text

theorem bareText_append (ts ts' : List Token) : bareText (ts ++ ts') = bareText ts ++ bareText ts' :=
  List.flatMap_append

/-- `Spells before tokens cs out`: the source `cs` without brackets, behind the character `before` and
the tokens `tokens` (the last one first), gives the tokens `out`. -/
inductive Spells : Option Char → List Token → List Char → List Token → Prop
  | nil {before tokens} : Spells before tokens [] tokens.reverse
  | plain {before tokens out c rest t} (hc : c ≠ '*') (hplain : t.IsPlain) (htext : t.text = [c])
      (h : Spells (some c) (t :: tokens) rest out) : Spells before tokens (c :: rest) out
  | star {before tokens out rest} (hrest : rest.head? ≠ some '*')
      (h : Spells (some '*') (.anySequence :: tokens) rest out) : Spells before tokens ('*' :: rest) out
  | last {before tokens} (hbefore : before = none ∨ before = some '/') :
      Spells before tokens ['*', '*'] (addComponents tokens).reverse
  | components {before tokens out rest} (hbefore : before = none ∨ before = some '/')
      (h : Spells (some '/') (addComponents tokens) rest out) :
      Spells before tokens ('*' :: '*' :: '/' :: rest) out

/-- What comes before a `**` as `read` tests it. -/
theorem before_of_not_components {before : Option Char}
    (h : ¬ (decide (before ≠ none) && decide (before ≠ some '/')) = true) :
    before = none ∨ before = some '/' := by
  simpa [or_iff_not_imp_left] using h

theorem spells_of_read {position : Nat} {before : Option Char} {tokens out : List Token} {cs : List Char}
    (h : read position before tokens cs = .ok out) (hcs : '[' ∉ cs) : Spells before tokens cs out := by
  fun_induction read position before tokens cs with
  | case1 => cases h; exact .nil
  | case2 position before tokens rest ih =>
    exact .plain (t := .anyChar) (by decide) trivial rfl (ih h (by simp_all))
  | case3 | case4 => simp at hcs
  | case5 position before tokens c rest _ _ hc ih =>
    exact .plain (t := .char c) hc trivial rfl (ih h (by simp_all))
  | case6 position before tokens c rest _ _ hc hrest ih =>
    obtain rfl : c = '*' := not_not.1 hc
    exact .star hrest (ih h (by simp_all))
  | case9 position before tokens c rest _ _ hc hrest after _ hbefore hafter =>
    obtain rfl : c = '*' := not_not.1 hc
    obtain ⟨rest, rfl⟩ := List.head?_eq_some_iff.1 (not_not.1 hrest)
    obtain rfl : rest = [] := List.isEmpty_iff.1 hafter
    cases h
    exact .last (before_of_not_components hbefore)
  | case10 position before tokens c rest _ _ hc hrest after _ hbefore _ hafter ih =>
    obtain rfl : c = '*' := not_not.1 hc
    obtain ⟨rest, rfl⟩ := List.head?_eq_some_iff.1 (not_not.1 hrest)
    obtain ⟨rest, rfl⟩ : ∃ rest', rest = '/' :: rest' := List.head?_eq_some_iff.1 hafter
    exact .components (before_of_not_components hbefore) (ih h (by simp_all))
  | case7 | case8 | case11 => cases h

/-! ### Text of tokens -/

theorem replaceAll_components (rest : List Char) :
    Text.replaceAll ['*', '*', '/'] [] ('*' :: '*' :: '/' :: rest) =
      Text.replaceAll ['*', '*', '/'] [] rest :=
  rfl

theorem bareText_addComponents (tokens : List Token) :
    bareText (addComponents tokens).reverse = bareText tokens.reverse := by
  rw [addComponents]
  split_ifs
  · rfl
  · simp [bareText, Token.text]

/-- Taking out the `**` that a `/` follows leaves the text of the tokens, and a `**` at the end if the
source ends in it. -/
theorem Spells.exists_bareText {before : Option Char} {tokens out : List Token} {cs : List Char}
    (h : Spells before tokens cs out) :
    ∃ w, bareText out = bareText tokens.reverse ++ w ∧ ¬ ['*', '*'] <:+: w ∧
      (cs.head? ≠ some '*' → w.head? ≠ some '*') ∧
      (Text.replaceAll ['*', '*', '/'] [] cs = w ∨
        Text.replaceAll ['*', '*', '/'] [] cs = w ++ ['*', '*'] ∧
          (w = [] ∧ (before = none ∨ before = some '/') ∨ w.getLast? = some '/')) := by
  induction h with
  | nil => exact ⟨[], by simp, by simp, by simp, .inl rfl⟩
  | @plain before tokens out c rest t hc _ htext _ ih =>
    obtain ⟨w, htokens, hdouble, -, hreplace⟩ := ih
    have hmark : ¬ ['*', '*', '/'] <+: c :: rest := fun h => hc (List.cons_prefix_cons.1 h).1.symm
    refine ⟨c :: w, ?_, ?_, fun _ => by simpa using hc, ?_⟩
    · rw [htokens, List.reverse_cons, bareText_append, List.append_assoc]
      simp [bareText, htext]
    · rw [List.infix_cons_iff, not_or]
      exact ⟨fun h => hc (List.cons_prefix_cons.1 h).1.symm, hdouble⟩
    · rw [Text.replaceAll_cons [] hmark]
      refine hreplace.imp (congrArg (c :: ·)) (And.imp (congrArg (c :: ·)) fun h => .inr ?_)
      rcases h with ⟨rfl, hslash⟩ | hslash
      · simpa using hslash
      · rw [List.getLast?_cons, hslash]
        rfl
  | @star before tokens out rest hrest _ ih =>
    obtain ⟨w, htokens, hdouble, hhead, hreplace⟩ := ih
    have hmark : ¬ ['*', '*', '/'] <+: '*' :: rest := fun h => by
      obtain ⟨t, ht⟩ := (List.cons_prefix_cons.1 h).2
      exact hrest (by rw [← ht]; rfl)
    refine ⟨'*' :: w, ?_, ?_, by simp, ?_⟩
    · rw [htokens, List.reverse_cons, bareText_append, List.append_assoc]
      rfl
    · rw [List.infix_cons_iff, not_or]
      refine ⟨fun h => ?_, hdouble⟩
      obtain ⟨t, ht⟩ := (List.cons_prefix_cons.1 h).2
      exact hhead hrest (by rw [← ht]; rfl)
    · rw [Text.replaceAll_cons [] hmark]
      refine hreplace.imp (congrArg ('*' :: ·)) (And.imp (congrArg ('*' :: ·)) fun h => .inr ?_)
      rcases h with ⟨rfl, hslash⟩ | hslash
      · simp at hslash
      · rw [List.getLast?_cons, hslash]
        rfl
  | @last before tokens hbefore =>
    exact ⟨[], by simp [bareText_addComponents], by simp, by simp, .inr ⟨rfl, .inl ⟨rfl, hbefore⟩⟩⟩
  | components hbefore _ ih =>
    obtain ⟨w, htokens, hdouble, -, hreplace⟩ := ih
    refine ⟨w, by rwa [bareText_addComponents] at htokens, hdouble, by simp, ?_⟩
    rw [replaceAll_components]
    exact hreplace.imp_right (And.imp_right (Or.imp_left fun h => ⟨h.1, hbefore⟩))

/-- Taking out a `/**` in front of nothing else. -/
theorem replaceAll_slash_components {v : List Char} (h : ¬ ['*', '*'] <:+: v) :
    Text.replaceAll ['/', '*', '*'] ['/'] (v ++ ['/', '*', '*']) = v ++ ['/'] := by
  rw [Text.replaceAll_append ['/']]
  · rfl
  · rintro s t rfl hne hpre
    -- the two stars would have to stand in `v`, or one of them where the `/` stands
    rcases t with _ | ⟨a, _ | ⟨b, _ | ⟨c, t⟩⟩⟩
    · exact hne rfl
    · simp [List.cons_prefix_cons] at hpre
    · simp [List.cons_prefix_cons] at hpre
    · simp only [List.cons_append, List.cons_prefix_cons] at hpre
      obtain ⟨-, rfl, rfl, -⟩ := hpre
      exact h ⟨s ++ [a], t, by simp⟩

theorem ofSource_eq_ok_iff {source : String} {g : Glob} :
    ofSource source = .ok g ↔ g.source = source ∧ read 0 none [] source.toList = .ok g.tokens := by
  rw [ofSource]
  obtain ⟨source', tokens⟩ := g
  cases read 0 none [] source.toList with
  | error e => simp
  | ok tokens' =>
    simp only [Except.ok.injEq, mk.injEq]
    exact and_congr_left' eq_comm

/-! ### The tokens of a source -/

theorem Spells.kinds {before : Option Char} {tokens out : List Token} {cs : List Char}
    (h : Spells before tokens cs out) :
    ∀ t ∈ out, t ∈ tokens ∨ t.IsPlain ∨ t = .anySequence ∨ t = .anyComponents := by
  have hadd : ∀ {tokens : List Token} {t : Token}, t ∈ addComponents tokens →
      t ∈ tokens ∨ t = .anyComponents := by
    intro tokens t ht
    rw [addComponents] at ht
    split_ifs at ht
    · exact .inl ht
    · exact (List.mem_cons.1 ht).symm
  induction h with
  | nil => exact fun t ht => .inl (List.mem_reverse.1 ht)
  | plain _ hplain _ _ ih =>
    intro t ht
    rcases ih t ht with ht | ht
    · rcases List.mem_cons.1 ht with rfl | ht
      · exact .inr (.inl hplain)
      · exact .inl ht
    · exact .inr ht
  | star _ _ ih =>
    intro t ht
    rcases ih t ht with ht | ht
    · rcases List.mem_cons.1 ht with rfl | ht
      · exact .inr (.inr (.inl rfl))
      · exact .inl ht
    · exact .inr ht
  | last =>
    intro t ht
    exact (hadd (List.mem_reverse.1 ht)).imp_right fun h => .inr (.inr h)
  | components _ _ ih =>
    intro t ht
    rcases ih t ht with ht | ht
    · exact (hadd ht).imp_right fun h => .inr (.inr h)
    · exact .inr ht

/-- What may stand before a token: before `**` there is a `/`, if there is anything. -/
def Token.MayFollow (t u : Token) : Prop :=
  t = .anyComponents → u = .char '/' ∨ u = .anyComponents

/-- The tokens read so far, the last one first, and the character that comes before what is left. -/
structure Joined (before : Option Char) (tokens : List Token) : Prop where
  chain : tokens.IsChain Token.MayFollow
  start : before = none → tokens = []
  slash : before = some '/' → ∃ u ∈ tokens.head?, u = .char '/' ∨ u = .anyComponents

theorem Joined.isChain_addComponents {before : Option Char} {tokens : List Token}
    (h : Joined before tokens) (hbefore : before = none ∨ before = some '/') :
    (addComponents tokens).IsChain Token.MayFollow := by
  rw [addComponents]
  split_ifs
  · exact h.chain
  · refine List.isChain_cons.2 ⟨fun u hu _ => ?_, h.chain⟩
    rcases hbefore with hnone | hslash
    · rw [h.start hnone] at hu
      simp at hu
    · obtain ⟨u', hu', hkind⟩ := h.slash hslash
      rw [Option.mem_def.1 hu] at hu'
      cases hu'
      exact hkind

theorem Spells.isChain {before : Option Char} {tokens out : List Token} {cs : List Char}
    (h : Spells before tokens cs out) (hj : Joined before tokens) :
    out.reverse.IsChain Token.MayFollow := by
  induction h with
  | nil => rw [List.reverse_reverse]; exact hj.chain
  | @plain before tokens out c rest t _ hplain htext _ ih =>
    refine ih ⟨List.isChain_cons.2 ⟨fun u _ ht => ?_, hj.chain⟩, by simp, fun hc => ⟨t, rfl, .inl ?_⟩⟩
    · rw [ht] at hplain
      exact hplain.elim
    · refine hplain.eq_char_of_text ?_
      rw [htext, ← hc]
      rfl
  | star _ _ ih =>
    exact ih ⟨List.isChain_cons.2 ⟨fun u _ ht => by simp at ht, hj.chain⟩, by simp, by simp⟩
  | last hbefore =>
    rw [List.reverse_reverse]
    exact hj.isChain_addComponents hbefore
  | components hbefore _ ih =>
    refine ih ⟨hj.isChain_addComponents hbefore, by simp, fun _ => ?_⟩
    rw [addComponents]
    split_ifs with hagain
    · simp at hagain
      exact ⟨.anyComponents, by simp [hagain.2], .inr rfl⟩
    · exact ⟨.anyComponents, rfl, .inr rfl⟩

section

variable {g : Glob} (hg : read 0 none [] g.source.toList = .ok g.tokens) (hbracket : '[' ∉ g.source.toList)
include hg hbracket

/-- Without brackets and wildcards other than `**`, the text that is left of a source is that of its
tokens. -/
theorem bareSource_eq_bareText (hstar : '*' ∉ g.bareSource) : g.bareSource = bareText g.tokens := by
  obtain ⟨w, htokens, hdouble, -, hreplace⟩ := (spells_of_read hg hbracket).exists_bareText
  have htext : bareText g.tokens = w := htokens
  rw [htext]
  rw [bareSource] at hstar ⊢
  rcases hreplace with hreplace | ⟨hreplace, ⟨rfl, -⟩ | hslash⟩
  · rw [hreplace, Text.replaceAll_of_not_infix]
    intro h
    exact hdouble (List.IsInfix.trans ⟨['/'], [], rfl⟩ h)
  · rw [hreplace] at hstar
    exact absurd (by decide) hstar
  · obtain ⟨v, rfl⟩ := List.getLast?_eq_some_iff.1 hslash
    rw [hreplace, List.append_assoc]
    exact replaceAll_slash_components fun h => hdouble (h.trans (List.prefix_append v ['/']).isInfix)

/-- The tokens of a glob with a directory take one character each, or are `**`. -/
theorem kinds_of_directory {dir : List Char} (hdir : g.directory? = some dir) :
    ∀ t ∈ g.tokens, t.IsPlain ∨ t = .anyComponents := by
  obtain ⟨hbare, -, hstar⟩ := directory?_eq_some_iff.1 hdir
  have htext := bareSource_eq_bareText hg hbracket (hbare ▸ hstar)
  intro t ht
  rcases (spells_of_read hg hbracket).kinds t ht with hnil | hplain | rfl | hcomponents
  · exact absurd hnil List.not_mem_nil
  · exact .inl hplain
  · rw [← hbare, htext] at hstar
    exact absurd (List.mem_flatMap.2 ⟨_, ht, List.mem_singleton.2 rfl⟩) hstar
  · exact .inr hcomponents

end

/-! ### Anchors -/

/-- The glob starts and ends with `**`. -/
def IsUnanchored (g : Glob) : Prop :=
  g.tokens.head? = some .anyComponents ∧ g.tokens.getLast? = some .anyComponents

/-- Tokens match their own text, each `**` as no component at all. -/
theorem tokensMatch_bareText {ts ts' : List Token} (hts : ∀ t ∈ ts, t.IsPlain ∨ t = .anyComponents)
    {rest : List Char} (h : tokensMatch ts' rest = true) :
    tokensMatch (ts ++ ts') (bareText ts ++ rest) = true := by
  induction ts with
  | nil => exact h
  | cons t ts ih =>
    have hrest := ih fun t ht => hts t (List.mem_cons_of_mem _ ht)
    rcases hts t (List.mem_cons_self ..) with hplain | rfl
    · rcases hplain.eq with ⟨c, rfl⟩ | rfl
      · show tokensMatch (.char c :: (ts ++ ts')) (c :: (bareText ts ++ rest)) = true
        simp [tokensMatch, hrest]
      · exact hrest
    · exact tokensMatch_anyComponents.2 ⟨_, self_mem_componentEndings _, hrest⟩

/-- If the first token is not `**`, tokens that take one character each lead up to a `/`. -/
theorem exists_slash {ts : List Token} (hkinds : ∀ t ∈ ts, t.IsPlain ∨ t = .anyComponents)
    (hchain : ts.IsChain fun u t => t.MayFollow u) (hlast : (bareText ts).getLast? = some '/')
    (hhead : ts.head? ≠ some .anyComponents) :
    ∃ p rest, ts = p ++ Token.char '/' :: rest ∧ ∀ t ∈ p, t.IsPlain := by
  induction ts with
  | nil => simp [bareText] at hlast
  | cons t ts ih =>
    have hplain : t.IsPlain := by
      refine (hkinds t (List.mem_cons_self ..)).resolve_right fun ht => hhead ?_
      rw [ht]; rfl
    by_cases hslash : t = .char '/'
    · exact ⟨[], ts, by rw [hslash]; rfl, by simp⟩
    obtain ⟨hnext, hchain⟩ := List.isChain_cons.1 hchain
    have hhead' : ts.head? ≠ some .anyComponents := by
      intro hts
      rcases hnext _ hts rfl with ht | ht
      · exact hslash ht
      · rw [ht] at hplain; exact hplain
    have hlast' : (bareText ts).getLast? = some '/' := by
      have happend : (t.text ++ bareText ts).getLast? = some '/' := hlast
      rw [List.getLast?_append] at happend
      cases hts : (bareText ts).getLast? with
      | none => exact absurd (hplain.eq_char_of_text (by simpa [hts] using happend)) hslash
      | some c => simpa [hts] using happend
    obtain ⟨p, rest, rfl, hp⟩ := ih (fun t ht => hkinds t (List.mem_cons_of_mem _ ht)) hchain hlast' hhead'
    refine ⟨t :: p, rest, rfl, fun u hu => ?_⟩
    rcases List.mem_cons.1 hu with rfl | hu
    · exact hplain
    · exact hp u hu

section

variable {g : Glob} (hg : read 0 none [] g.source.toList = .ok g.tokens) (hbracket : '[' ∉ g.source.toList)
  {dir : List Char} (hdir : g.directory? = some dir)
include hg hbracket hdir

theorem eq_bareText_of_directory : dir = bareText g.tokens := by
  obtain ⟨hbare, -, hstar⟩ := directory?_eq_some_iff.1 hdir
  exact hbare ▸ bareSource_eq_bareText hg hbracket (hbare ▸ hstar)

/-- An unanchored glob matches what lies below its directory. -/
theorem isMatch_of_isUnanchored (h : g.IsUnanchored) {shown : List Char}
    (hshown : (below dir).isMatch shown = true) : g.isMatch shown = true := by
  have htext := eq_bareText_of_directory hg hbracket hdir
  have hkinds := kinds_of_directory hg hbracket hdir
  obtain ⟨hhead, hlast⟩ := h
  obtain ⟨ts, hts⟩ := List.head?_eq_some_iff.1 hhead
  rw [hts] at hlast hkinds htext
  rcases List.eq_nil_or_concat' ts with rfl | ⟨mid, t, rfl⟩
  · exact absurd htext (directory?_ne_nil hdir)
  obtain rfl : t = .anyComponents := by
    rw [← List.cons_append, List.getLast?_concat] at hlast
    exact Option.some.inj hlast
  have hmid : dir = bareText mid := by simpa [bareText, Token.text] using htext
  obtain ⟨rest, he⟩ := isMatch_below_iff_ending.1 hshown
  rw [isMatch, hts]
  refine tokensMatch_anyComponents.2 ⟨_, he, ?_⟩
  rw [hmid]
  exact tokensMatch_bareText (fun t ht => hkinds t (by simp [ht])) (tokensMatch_last_anyComponents rest)

/-- A glob that does not start with `**` misses its directory further down. -/
theorem exists_missed_of_head (hhead : g.tokens.head? ≠ some .anyComponents) :
    ∃ n, g.isMatch (List.replicate (n + 1) 'a' ++ '/' :: dir) = false := by
  have hchain := (spells_of_read hg hbracket).isChain ⟨.nil, fun _ => rfl, by simp⟩
  have hslash := (directory?_eq_some_iff.1 hdir).2.1
  rw [eq_bareText_of_directory hg hbracket hdir] at hslash
  obtain ⟨p, rest, hts, hp⟩ :=
    exists_slash (kinds_of_directory hg hbracket hdir) (List.isChain_reverse.1 hchain) hslash hhead
  refine ⟨p.length, Bool.eq_false_iff.2 fun h => ?_⟩
  rw [isMatch, hts] at h
  obtain ⟨a, b, hab, hlength, hb⟩ := exists_append_of_tokensMatch hp h
  obtain ⟨r, rfl, -⟩ := (@tokensMatch_chars_append ['/'] rest b).1 hb
  -- the `/` of the glob meets one of the letters
  have hat := congrArg (·[p.length]?) hab
  rw [List.getElem?_append_left (by simp)] at hat
  simp [← hlength] at hat

/-- A glob that does not end with `**` misses what is in its directory. -/
theorem not_isMatch_of_getLast? (hlast : g.tokens.getLast? ≠ some .anyComponents) :
    g.isMatch (dir ++ ['a']) = false := by
  have hslash := (directory?_eq_some_iff.1 hdir).2.1
  rw [eq_bareText_of_directory hg hbracket hdir] at hslash
  rcases List.eq_nil_or_concat' g.tokens with hts | ⟨ts, t, hts⟩
  · rw [hts] at hslash
    simp [bareText] at hslash
  have hplain : t.IsPlain := by
    refine (kinds_of_directory hg hbracket hdir t (by simp [hts])).resolve_right fun ht => hlast ?_
    rw [hts, ht]
    simp
  have ht : t = .char '/' := by
    have htext : t.text ≠ [] := by
      rcases hplain.eq with ⟨c, rfl⟩ | rfl <;> exact List.cons_ne_nil _ _
    have hlastText : bareText [t] = t.text := List.append_nil _
    rw [hts, bareText_append, hlastText, List.getLast?_append_of_ne_nil _ htext] at hslash
    exact hplain.eq_char_of_text hslash
  refine Bool.eq_false_iff.2 fun h => ?_
  rw [isMatch, hts, ht] at h
  simpa using getLast?_of_tokensMatch h

end

end Guideline.Glob
