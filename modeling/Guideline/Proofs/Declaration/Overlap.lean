import Guideline.Proofs.Declaration.FirstVariable
import Guideline.Proofs.Declaration.FunctionHead
import Guideline.Proofs.Source.TokenPlace

/-!
# Statements that are read both ways

A function is looked for at the first parameter list, a variable behind the first type, and nothing keeps
the two apart: `int a, b(x)` declares the variable `a` and has the signature of `b`. They never meet in
one name, though, and a statement with a signature declares variables just if its first variable is followed
by a comma or a bit-field width or has `operator` in its type (`signature?_declaredVariables?_overlap`).
-/

namespace Guideline.Declaration

open Source

/-! ### The name of a function -/

theorem splitAtParen_eq_some {angles : Nat} {before tokens found after : List Token}
    (h : splitAtParen angles before tokens = some (found, after)) :
    ∃ mid p, tokens = mid ++ p :: after ∧ p.isPunct '(' = true ∧ found = mid.reverse ++ before := by
  have hcons : ∀ {t : Token} {before rest : List Token},
      (∃ mid p, rest = mid ++ p :: after ∧ p.isPunct '(' = true ∧ found = mid.reverse ++ t :: before) →
      ∃ mid p, t :: rest = mid ++ p :: after ∧ p.isPunct '(' = true ∧ found = mid.reverse ++ before := by
    rintro t before rest ⟨mid, p, rfl, hp, rfl⟩
    exact ⟨t :: mid, p, rfl, hp, by simp⟩
  fun_induction splitAtParen angles before tokens with
  | case1 => cases h
  | case2 angles before t rest _ ih => exact hcons (ih h)
  | case3 angles before t rest _ _ ih => exact hcons (ih h)
  | case4 angles before t rest _ _ hparen =>
    cases h
    exact ⟨[], t, rfl, (Bool.and_eq_true_iff.1 hparen).1, rfl⟩
  | case5 angles before t rest _ _ _ ih => exact hcons (ih h)

theorem splitAtOperator_eq_some {before tokens found after : List Token} {word : Token}
    (h : splitAtOperator before tokens = some (found, word, after)) :
    ∃ mid, tokens = mid ++ word :: after ∧ word.isWord "operator" = true ∧ found = mid.reverse ++ before := by
  induction tokens generalizing before with
  | nil => cases h
  | cons t rest ih =>
    rw [splitAtOperator] at h
    split at h
    next hword =>
      cases h
      exact ⟨[], rfl, hword, rfl⟩
    next =>
      obtain ⟨mid, rfl, hword, rfl⟩ := ih h
      exact ⟨t :: mid, rfl, hword, by simp⟩

theorem splitAtOperator_append {pre : List Token} (h : ∀ t ∈ pre, t.isWord "operator" = false)
    (before rest : List Token) :
    splitAtOperator before (pre ++ rest) = splitAtOperator (pre.reverse ++ before) rest := by
  induction pre generalizing before with
  | nil => rfl
  | cons t pre ih =>
    rw [List.cons_append, splitAtOperator, h t (by simp), if_neg (by simp),
      ih fun u hu => h u (by simp [hu])]
    simp

/-- What stands somewhere before the name of a function. -/
def BeforeName (t : Token) : Prop :=
  leadAllows t = true ∨ t.isIdent = true ∨ t.isPunct '~' = true

theorem BeforeName.mem_of_isPunct {t : Token} (h : BeforeName t) {c : Char} (hc : t.isPunct c = true) :
    c ∈ [':', '<', '>', '*', '&', ',', '~'] := by
  rcases h with h | h | h
  · have hkind := (Token.isPunct_iff.1 hc).1
    simp only [leadAllows, hkind, Token.isPunctIn_eq hc, decide_eq_true_eq] at h
    exact List.mem_append_left ['~'] h
  · rw [Token.isIdent_eq_false hc] at h
    cases h
  · rw [Token.isPunct_eq hc, decide_eq_true_eq] at h
    simp [h]

theorem beforeName_of_mem_dropQualifiers {before : List Token}
    (h : ∀ t ∈ dropQualifiers before, leadAllows t = true) : ∀ t ∈ before, BeforeName t := by
  fun_induction dropQualifiers before with
  | case1 c d q before hqualifier ih =>
    simp only [Bool.and_eq_true] at hqualifier
    obtain ⟨⟨hc, hd⟩, hq⟩ := hqualifier
    have hcolon : ∀ {t : Token}, t.isPunct ':' = true → leadAllows t = true := by
      intro t ht
      have hkind := (Token.isPunct_iff.1 ht).1
      simp only [leadAllows, hkind, Token.isPunctIn_eq ht]
      decide
    intro t ht
    simp only [List.mem_cons] at ht
    rcases ht with rfl | rfl | rfl | ht
    · exact .inl (hcolon hc)
    · exact .inl (hcolon hd)
    · exact .inr (.inl hq)
    · exact ih h t ht
  | case2 => exact fun t ht => .inl (h t ht)
  | case3 => exact fun t ht => .inl (h t ht)

theorem NamedHead.beforeName_of_ofBefore {before after : List Token} {name : String} {offset : Nat}
    (h : ∀ t ∈ (NamedHead.ofBefore before name offset after).lead, leadAllows t = true) :
    ∀ t ∈ before, BeforeName t := by
  simp only [NamedHead.ofBefore, List.mem_reverse] at h
  split at h
  next htilde =>
    cases before with
    | nil => simp
    | cons u before =>
      intro t ht
      rcases List.mem_cons.1 ht with rfl | ht
      · exact .inr (.inr (by simpa using htilde))
      · exact beforeName_of_mem_dropQualifiers h t ht
  next => exact beforeName_of_mem_dropQualifiers h

/-- The name of a function is the word `operator` or stands before the first parameter list. -/
theorem name_of_ofTokens? {tokens : List Token} {className : Option String} {sig : Signature}
    (h : Signature.ofTokens? tokens className = some sig) :
    ∃ before name, (∀ t ∈ before, BeforeName t) ∧ name.offset = sig.offset ∧
      ((∃ after, splitAtOperator [] tokens = some (before, name, after)) ∨
        name.isIdent = true ∧ ∃ after, splitAtParen 0 [] tokens = some (name :: before, after)) := by
  simp only [Signature.ofTokens?, Option.bind_eq_bind, Option.bind_eq_some_iff] at h
  obtain ⟨head, hhead, close, -, params, -, kind, -, h⟩ := h
  split at h
  next hallowed =>
    cases h
    have hlead := List.all_eq_true.1 (Bool.and_eq_true_iff.1 hallowed).1
    unfold NamedHead.find? at hhead
    split at hhead
    next before word after hsplit =>
      obtain ⟨⟨name, afterParen⟩, -, rfl⟩ := Option.map_eq_some_iff.1 hhead
      exact ⟨before, word, NamedHead.beforeName_of_ofBefore hlead, rfl, .inl ⟨after, hsplit⟩⟩
    next =>
      split at hhead
      next name before after hsplit =>
        split at hhead
        next hident =>
          cases hhead
          exact ⟨before, name, NamedHead.beforeName_of_ofBefore hlead, rfl, .inr ⟨hident, after, hsplit⟩⟩
        next => cases hhead
      next => cases hhead
  next => cases h

/-! ### What stands before the first variable -/

/-- The search for a parameter list passes over the tokens up to `rest`, unless what it finds has a
parenthesis before it. -/
def PassesTo (tokens rest : List Token) : Prop :=
  ∃ pre, tokens = pre ++ rest ∧ ∀ before found after, splitAtParen 0 before tokens = some (found, after) →
    (∃ t ∈ found, t.isPunct '(' = true) ∨ splitAtParen 0 (pre.reverse ++ before) rest = some (found, after)

namespace PassesTo

variable {tokens rest rest' : List Token}

theorem refl (tokens : List Token) : PassesTo tokens tokens :=
  ⟨[], rfl, fun _ _ _ h => .inr h⟩

theorem trans (h : PassesTo tokens rest) (h' : PassesTo rest rest') : PassesTo tokens rest' := by
  obtain ⟨pre, rfl, hpre⟩ := h
  obtain ⟨pre', rfl, hpre'⟩ := h'
  refine ⟨pre ++ pre', by simp, fun before found after hsplit => ?_⟩
  rcases hpre before found after hsplit with hparen | hsplit
  · exact .inl hparen
  · rcases hpre' _ found after hsplit with hparen | hsplit
    · exact .inl hparen
    · exact .inr (by simpa using hsplit)

theorem of_not_bracket {t : Token} (h : ∀ c ∈ ['<', '>', '('], t.isPunct c = false) :
    PassesTo (t :: rest) rest := by
  refine ⟨[t], rfl, fun before found after hsplit => .inr ?_⟩
  rwa [splitAtParen_plain (h _ (by simp)) (h _ (by simp)) (.inl (h _ (by simp)))] at hsplit

theorem of_isIdent {t : Token} (h : t.isIdent = true) : PassesTo (t :: rest) rest :=
  of_not_bracket fun c _ => Token.isPunct_eq_false h c

theorem of_isPunct {t : Token} {c : Char} (h : t.isPunct c = true) (hc : c ∉ ['<', '>', '(']) :
    PassesTo (t :: rest) rest := by
  refine of_not_bracket fun d hd => ?_
  rw [Token.isPunct_eq h, decide_eq_false_iff_not]
  rintro rfl
  exact hc hd

theorem dropWhile (words : List String) (tokens : List Token) :
    PassesTo tokens (tokens.dropWhile (·.isOneOf words)) := by
  induction tokens with
  | nil => exact refl []
  | cons t rest ih =>
    rw [List.dropWhile_cons]
    split
    next hword => exact (of_isIdent (Token.isOneOf_iff.1 hword).1).trans ih
    next => exact refl _

end PassesTo

/-- Up to the first parenthesis, template arguments and the search for a parameter list count the same
angle brackets. -/
theorem splitAtParen_of_angleEnd {tokens before found after : List Token} {depth n : Nat} (hdepth : 0 < depth)
    (hend : angleEnd 0 depth tokens = some n) (hsplit : splitAtParen depth before tokens = some (found, after)) :
    (∃ t ∈ found, t.isPunct '(' = true) ∨
      splitAtParen 0 ((tokens.take n).reverse ++ before) (tokens.drop n) = some (found, after) := by
  induction tokens generalizing before depth n with
  | nil => cases hend
  | cons t rest ih =>
    -- Both counters go on at `rest` with one and the same depth.
    have hstep : ∀ {depth' : Nat}, 0 < depth' → (angleEnd 0 depth' rest).map (· + 1) = some n →
        splitAtParen depth' (t :: before) rest = some (found, after) →
        (∃ t ∈ found, t.isPunct '(' = true) ∨
          splitAtParen 0 (((t :: rest).take n).reverse ++ before) ((t :: rest).drop n) = some (found, after) := by
      intro depth' hpos hend hsplit
      obtain ⟨m, hm, rfl⟩ := Option.map_eq_some_iff.1 hend
      rcases ih hpos hm hsplit with hparen | hsplit
      · exact .inl hparen
      · exact .inr (by simpa using hsplit)
    by_cases hopen : t.isPunct '<' = true
    · rw [angleEnd_opening hopen] at hend
      rw [splitAtParen_opening hopen] at hsplit
      exact hstep (Nat.succ_pos depth) hend hsplit
    by_cases hclose : t.isPunct '>' = true
    · rw [splitAtParen_closing hclose] at hsplit
      obtain ⟨d, rfl⟩ := Nat.exists_eq_succ_of_ne_zero (Nat.ne_of_gt hdepth)
      rcases Nat.eq_zero_or_pos d with rfl | hpos
      · rw [angleEnd_last hclose] at hend
        cases hend
        exact .inr hsplit
      · rw [angleEnd_closing hclose hpos] at hend
        exact hstep hpos hend hsplit
    rw [Bool.not_eq_true] at hopen hclose
    rw [splitAtParen_plain hopen hclose (.inr hdepth)] at hsplit
    by_cases hparen : t.isPunct '(' = true
    · obtain ⟨mid, p, -, -, rfl⟩ := splitAtParen_eq_some hsplit
      exact .inl ⟨t, by simp, hparen⟩
    · refine hstep hdepth ?_ hsplit
      rw [← hend, angleEnd]
      simp [hparen, hopen, hclose]

theorem afterScope?_passesTo {tokens rest : List Token} (h : afterScope? tokens = some rest) :
    PassesTo tokens rest := by
  obtain ⟨c, d, rfl, hc, hd⟩ := afterScope?_eq_some_iff.1 h
  exact (PassesTo.of_isPunct hc (by decide)).trans (.of_isPunct hd (by decide))

theorem afterArguments?_passesTo {tokens rest : List Token} (h : afterArguments? tokens = some rest) :
    PassesTo tokens rest := by
  unfold afterArguments? at h
  split at h
  · cases h
    exact .refl []
  next t more =>
    split at h
    next hopen =>
      obtain ⟨n, hend, rfl⟩ := Option.map_eq_some_iff.1 h
      refine ⟨t :: more.take n, by simp, fun before found after hsplit => ?_⟩
      rw [splitAtParen_opening hopen] at hsplit
      simpa using splitAtParen_of_angleEnd Nat.one_pos hend hsplit
    next =>
      cases h
      exact .refl _

theorem readQualifiedType?_passesTo {tokens rest : List Token} (h : readQualifiedType? tokens = some rest) :
    PassesTo tokens rest := by
  fun_induction readQualifiedType? tokens with
  | case1 => cases h
  | case2 => cases h
  | case3 t more hident after ha _ =>
    cases h
    exact (PassesTo.of_isIdent hident).trans (afterArguments?_passesTo ha)
  | case4 t more hident after ha next hs _ _ ih =>
    have hscope := (afterArguments?_passesTo ha).trans (afterScope?_passesTo hs)
    exact (PassesTo.of_isIdent hident).trans (hscope.trans (ih h))
  | case5 => cases h

theorem readType?_passesTo {tokens rest : List Token} (h : readType? tokens = some rest) :
    PassesTo tokens rest := by
  unfold readType? at h
  split at h
  · cases h
  · split at h
    · cases h
      exact .dropWhile _ _
    · have hread := readQualifiedType?_passesTo h
      cases hscope : afterScope? _ with
      | none => rwa [hscope] at hread
      | some next =>
        rw [hscope] at hread
        exact (afterScope?_passesTo hscope).trans hread

theorem readIndirection_passesTo (isConst indirect : Bool) (tokens : List Token) :
    PassesTo tokens (readIndirection isConst indirect tokens).2.2 := by
  have hword : ∀ {t : Token} {word : String} {rest : List Token}, t.isWord word = true →
      PassesTo (t :: rest) rest :=
    fun h => .of_isIdent (Token.isWord_iff.1 h).1
  fun_induction readIndirection isConst indirect tokens with
  | case1 => exact .refl []
  | case2 _ _ t rest hconst ih => exact (hword hconst).trans ih
  | case3 _ _ t rest _ hvolatile ih => exact (hword hvolatile).trans ih
  | case4 _ _ t rest _ _ hmark ih =>
    have hpointer : IsPointer t := hmark
    refine (PassesTo.of_not_bracket fun c hc => hpointer.isPunct_eq_false ?_).trans ih
    exact (by simp : ∀ c ∈ ['<', '>', '('], c ∉ ['*', '&']) c hc
  | case5 => exact .refl _

/-- Where the name of the first variable stands, the search has passed over what is before it. -/
theorem StartsDeclaration.splitAtParen {tokens typed rest : List Token} {v : Variable}
    (h : StartsDeclaration tokens typed v rest) {a : List Token} {name : Token}
    (htokens : tokens = a ++ name :: rest) {found after : List Token}
    (hsplit : splitAtParen 0 [] tokens = some (found, after)) :
    (∃ t ∈ found, t.isPunct '(' = true) ∨
      Declaration.splitAtParen 0 a.reverse (name :: rest) = some (found, after) := by
  obtain ⟨name', hread, -⟩ := readDeclarator?_eq_some_iff.1 h.declarator
  have hmarks := readIndirection_passesTo (baseConst tokens typed) false
    (typed.dropWhile (·.isOneOf ["const", "volatile"]))
  rw [hread] at hmarks
  have htype := (PassesTo.dropWhile variableSpecifiers tokens).trans (readType?_passesTo h.type)
  obtain ⟨pre, hpre, hpasses⟩ := htype.trans ((PassesTo.dropWhile ["const", "volatile"] typed).trans hmarks)
  obtain ⟨rfl, hname⟩ := List.append_inj' (htokens.symm.trans hpre) rfl
  obtain ⟨rfl, -⟩ := List.cons.inj hname
  simpa using hpasses [] found after hsplit

theorem NamesVariable.separator {name t : Token} {rest : List Token} {v : Variable}
    (h : NamesVariable name (t :: rest) v) : ∃ c ∈ [':', '=', '\x7b', '[', ','], t.isPunct c = true := by
  have hends := h.ends
  rw [endsDeclarator] at hends
  split at hends
  next hcolon => exact ⟨':', by decide, hcolon⟩
  next =>
    obtain ⟨c, hc, ht⟩ := Token.isPunctIn_iff.1 hends
    exact ⟨c, List.mem_cons_of_mem _ hc, ht⟩

/-! ### Both ways -/

theorem NamesVariable.exists_mem_splitAtOperator {name word : Token} {a rest before after : List Token}
    {v : Variable} (h : NamesVariable name rest v) (hoperator : ∀ t ∈ a, t.isWord "operator" = false)
    (hsplit : splitAtOperator [] (a ++ name :: rest) = some (before, word, after)) :
    ∃ t ∈ rest.head?, t ∈ before := by
  have hpre : ∀ t ∈ a ++ [name], t.isWord "operator" = false := by
    intro t ht
    rcases List.mem_append.1 ht with ht | ht
    · exact hoperator t ht
    · rw [List.mem_singleton.1 ht]
      exact h.not_operator
  rw [← List.singleton_append, ← List.append_assoc, splitAtOperator_append hpre] at hsplit
  cases rest with
  | nil => cases hsplit
  | cons t rest =>
    obtain ⟨c, -, hc⟩ := h.separator
    rw [splitAtOperator, Token.isWord_eq_false hc, if_neg (by simp)] at hsplit
    obtain ⟨mid, -, -, rfl⟩ := splitAtOperator_eq_some hsplit
    exact ⟨t, rfl, by simp⟩

theorem NamesVariable.exists_mem_splitAtParen {name : Token} {rest before found after : List Token}
    {v : Variable} (h : NamesVariable name rest v)
    (hsplit : splitAtParen 0 before (name :: rest) = some (found, after)) : ∃ t ∈ rest.head?, t ∈ found := by
  have hplain := Token.isPunct_eq_false h.isIdent
  rw [splitAtParen_plain (hplain _) (hplain _) (.inl (hplain _))] at hsplit
  cases rest with
  | nil => cases hsplit
  | cons t rest =>
    obtain ⟨c, hmem, hc⟩ := h.separator
    have hbracket : ∀ d ∈ ['<', '>', '('], t.isPunct d = false := by
      intro d hd
      rw [Token.isPunct_eq hc, decide_eq_false_iff_not]
      rintro rfl
      exact (by simp : ∀ d ∈ ['<', '>', '('], d ∉ [':', '=', '\x7b', '[', ',']) c hd hmem
    rw [splitAtParen_plain (hbracket _ (by simp)) (hbracket _ (by simp))
      (.inl (hbracket _ (by simp)))] at hsplit
    obtain ⟨mid, p, -, -, rfl⟩ := splitAtParen_eq_some hsplit
    exact ⟨t, rfl, by simp⟩

/-- Unless `operator` stands before it, the first variable is followed by a token that stands before the name
of the function. -/
theorem StartsDeclaration.exists_beforeName {tokens typed rest : List Token} {v : Variable}
    (h : StartsDeclaration tokens typed v rest) {a : List Token} {name : Token}
    (htokens : tokens = a ++ name :: rest) (hname : NamesVariable name rest v)
    (hoperator : ∀ t ∈ a, t.isWord "operator" = false) {className : Option String} {sig : Signature}
    (hsig : Signature.ofTokens? tokens className = some sig) : ∃ t ∈ rest.head?, BeforeName t := by
  obtain ⟨before, fname, hbefore, -, ⟨after, hsplit⟩ | ⟨hident, after, hsplit⟩⟩ := name_of_ofTokens? hsig
  · rw [htokens] at hsplit
    obtain ⟨t, ht, hmem⟩ := hname.exists_mem_splitAtOperator hoperator hsplit
    exact ⟨t, ht, hbefore t hmem⟩
  · have hfound : ∀ {t : Token} {c : Char}, t ∈ fname :: before → t.isPunct c = true → BeforeName t := by
      intro t c ht hc
      rcases List.mem_cons.1 ht with rfl | ht
      · rw [Token.isIdent_eq_false hc] at hident
        cases hident
      · exact hbefore t ht
    rcases h.splitAtParen htokens hsplit with ⟨t, ht, hparen⟩ | hsplit
    · -- No parenthesis stands before the name of a function.
      exact absurd ((hfound ht hparen).mem_of_isPunct hparen) (by decide)
    · obtain ⟨t, ht, hmem⟩ := hname.exists_mem_splitAtParen hsplit
      obtain ⟨more, rfl⟩ := List.head?_eq_some_iff.1 (Option.mem_def.1 ht)
      obtain ⟨c, -, hc⟩ := hname.separator
      exact ⟨t, ht, hfound hmem hc⟩

theorem StartsDeclaration.separator_of_ofTokens? {tokens typed rest : List Token} {v : Variable}
    (h : StartsDeclaration tokens typed v rest) {a : List Token} {name : Token}
    (htokens : tokens = a ++ name :: rest) (hname : NamesVariable name rest v)
    {className : Option String} {sig : Signature} (hsig : Signature.ofTokens? tokens className = some sig) :
    (∃ t ∈ a, t.isWord "operator" = true) ∨
      ∃ t ∈ rest.head?, t.isPunct ',' = true ∨ t.isPunct ':' = true := by
  by_cases hoperator : ∃ t ∈ a, t.isWord "operator" = true
  · exact .inl hoperator
  · right
    have hno : ∀ t ∈ a, t.isWord "operator" = false := by simpa using hoperator
    obtain ⟨t, ht, hbefore⟩ := h.exists_beforeName htokens hname hno hsig
    obtain ⟨more, rfl⟩ := List.head?_eq_some_iff.1 (Option.mem_def.1 ht)
    obtain ⟨c, hmem, hc⟩ := hname.separator
    have hallowed := hbefore.mem_of_isPunct hc
    have hchar : ∀ c ∈ [':', '=', '\x7b', '[', ','],
        c ∈ [':', '<', '>', '*', '&', ',', '~'] → c = ',' ∨ c = ':' := by
      simp
    refine ⟨t, rfl, ?_⟩
    rcases hchar c hmem hallowed with rfl | rfl
    · exact .inl hc
    · exact .inr hc

/-- The name of a function is followed by a parenthesis, or it is the word `operator`. -/
theorem suffix_of_ofTokens? {tokens : List Token} {className : Option String} {sig : Signature}
    (h : Signature.ofTokens? tokens className = some sig) :
    ∃ name rest, name :: rest <:+ tokens ∧ name.offset = sig.offset ∧
      (name.isWord "operator" = true ∨ ∃ t ∈ rest.head?, t.isPunct '(' = true) := by
  obtain ⟨before, name, -, hoffset, ⟨after, hsplit⟩ | ⟨-, after, hsplit⟩⟩ := name_of_ofTokens? h
  · obtain ⟨mid, rfl, hword, -⟩ := splitAtOperator_eq_some hsplit
    exact ⟨name, after, List.suffix_append mid _, hoffset, .inl hword⟩
  · obtain ⟨mid, p, rfl, hp, hfound⟩ := splitAtParen_eq_some hsplit
    obtain rfl : mid = before.reverse ++ [name] := by
      rw [List.append_nil] at hfound
      rw [← List.reverse_reverse mid, ← hfound, List.reverse_cons]
    refine ⟨name, p :: after, ?_, hoffset, .inr ⟨p, rfl, hp⟩⟩
    rw [List.append_assoc, List.singleton_append]
    exact List.suffix_append _ _

theorem eq_of_offset_eq {tokens : List Token} (h : tokens.Pairwise (fun t u => t.offset < u.offset))
    {t u : Token} {a b : List Token} (ha : t :: a <:+ tokens) (hb : u :: b <:+ tokens)
    (hoffset : t.offset = u.offset) : t :: a = u :: b := by
  -- Of two suffixes one is a suffix of the other; a proper one starts at a later token.
  have hlater : ∀ {t u : Token} {a b : List Token}, u :: b <:+ tokens → t :: a <:+ u :: b →
      t.offset = u.offset → t :: a = u :: b := by
    intro t u a b hb hab hoffset
    rcases List.suffix_cons_iff.1 hab with heq | hproper
    · exact heq
    · have hlt := List.rel_of_pairwise_cons (h.sublist hb.sublist) (hproper.subset (List.mem_cons_self))
      omega
  rcases List.suffix_or_suffix_of_suffix ha hb with hab | hba
  · exact hlater hb hab hoffset
  · exact (hlater ha hba hoffset.symm).symm

/-- No token is the name of a function and of a variable. -/
theorem offset_ne_of_ofTokens? {tokens : List Token} (hpairwise : tokens.Pairwise (fun t u => t.offset < u.offset))
    {className : Option String} {sig : Signature} (hsig : Signature.ofTokens? tokens className = some sig)
    {vars : List Variable} (hvars : variablesOfTokens? tokens = some vars) :
    ∀ v ∈ vars, v.offset ≠ sig.offset := by
  intro v hv hoffset
  obtain ⟨name, rest, hsuffix, hname⟩ := namesVariable_of_variablesOfTokens? hvars v hv
  obtain ⟨fname, frest, hfsuffix, hfoffset, hparen⟩ := suffix_of_ofTokens? hsig
  have heq := eq_of_offset_eq hpairwise hsuffix hfsuffix
    (hname.offset_eq.symm.trans (hoffset.trans hfoffset.symm))
  obtain ⟨rfl, rfl⟩ := List.cons.inj heq
  rcases hparen with hword | ⟨t, ht, hparen⟩
  · rw [hname.not_operator] at hword
    cases hword
  · obtain ⟨more, rfl⟩ := List.head?_eq_some_iff.1 (Option.mem_def.1 ht)
    obtain ⟨c, hmem, hc⟩ := hname.separator
    rw [Token.isPunct_eq hc, decide_eq_true_eq] at hparen
    exact absurd (hparen ▸ hmem) (by decide)

/-- The tokens up to a name declare one variable of that name and nothing else. -/
def DeclaresOnly (before : List Token) (name : Token) : Prop :=
  ∃ v, variablesOfTokens? (before ++ [name]) = some [v] ∧ v.name = name.text ∧ v.offset = name.offset

theorem StartsDeclaration.declaresOnly {before typed : List Token} {name : Token} {v : Variable}
    (h : StartsDeclaration (before ++ [name]) typed v []) (hname : v.name = name.text)
    (hoffset : v.offset = name.offset) : DeclaresOnly before name := by
  have hread := h.variablesOfTokens?_eq
  have hmore : moreDeclarators (baseConst (before ++ [name]) typed) [] = [] :=
    moreDeclarators_of_none (by rw [nextDeclarator?])
  rw [hmore] at hread
  split at hread
  · exact ⟨_, hread, hname, hoffset⟩
  · exact ⟨_, hread, hname, hoffset⟩

theorem DeclaresOnly.startsDeclaration {before : List Token} {name : Token} (h : DeclaresOnly before name)
    (hpairwise : (before ++ [name]).Pairwise (fun t u => t.offset < u.offset)) :
    ∃ typed v, StartsDeclaration (before ++ [name]) typed v [] := by
  obtain ⟨v, hread, -, hoffset⟩ := h
  obtain ⟨typed, w, rest, hstart⟩ := exists_startsDeclaration hread
  obtain ⟨a, wname, htokens, hwname, -⟩ := hstart.readsUpTo
  have hwoffset : w.offset = v.offset := by
    rw [hstart.variablesOfTokens?_eq] at hread
    split at hread
    · rw [List.map_cons] at hread
      rw [← (List.cons.inj (Option.some.inj hread)).1]
    · rw [← (List.cons.inj (Option.some.inj hread)).1]
  have heq := eq_of_offset_eq hpairwise (List.suffix_append before [name]) (htokens ▸ List.suffix_append a _)
    (hoffset.symm.trans (hwoffset.symm.trans hwname.offset_eq))
  obtain ⟨-, rfl⟩ := List.cons.inj heq
  exact ⟨typed, w, hstart⟩

theorem pairwise_declaringTokens (text : List Char) :
    (declaringTokens text).Pairwise (fun t u => t.offset < u.offset) :=
  (pairwise_tokenizeFrom 0 text).sublist (declaringTokens_sublist text)

/-- A statement with a signature declares variables as well just if it starts with the declaration of one
variable, and behind the name a comma or a bit-field width follows, or `operator` stands before the name.
Even so, no name is read both ways. -/
theorem signature?_declaredVariables?_overlap {text : List Char} {className : Option String} {sig : Signature}
    (hsig : signature? text className = some sig) :
    ((declaredVariables? text).isSome = true ↔
      ∃ before name after, declaringTokens text = before ++ name :: after ∧ DeclaresOnly before name ∧
        endsDeclarator after = true ∧ ((∃ t ∈ before, t.isWord "operator" = true) ∨
          ∃ t ∈ after.head?, t.isPunct ',' = true ∨ t.isPunct ':' = true)) ∧
      ∀ vars, declaredVariables? text = some vars → ∀ v ∈ vars, v.offset ≠ sig.offset := by
  refine ⟨⟨fun hsome => ?_, ?_⟩, fun vars => offset_ne_of_ofTokens? (pairwise_declaringTokens text) hsig⟩
  · obtain ⟨vars, hvars⟩ := Option.isSome_iff_exists.1 hsome
    obtain ⟨typed, v, after, hstart⟩ := exists_startsDeclaration hvars
    obtain ⟨before, name, htokens, hname, hreplace⟩ := hstart.readsUpTo
    obtain ⟨typed', honly⟩ := hreplace [] rfl
    exact ⟨before, name, after, htokens, honly.declaresOnly hname.text_eq hname.offset_eq, hname.ends,
      hstart.separator_of_ofTokens? htokens hname hsig⟩
  · rintro ⟨before, name, after, htokens, honly, hends, -⟩
    have hpairwise : (before ++ [name]).Pairwise (fun t u => t.offset < u.offset) := by
      have hprefix : before ++ [name] <+: declaringTokens text := ⟨after, by simp [htokens]⟩
      exact (pairwise_declaringTokens text).sublist hprefix.sublist
    obtain ⟨typed, v, hstart⟩ := honly.startsDeclaration hpairwise
    obtain ⟨a, name', heq, -, hreplace⟩ := hstart.readsUpTo
    obtain ⟨rfl, hname⟩ := List.append_inj' heq rfl
    obtain ⟨rfl, -⟩ := List.cons.inj hname
    obtain ⟨typed', hwhole⟩ := hreplace after hends
    rw [declaredVariables?, htokens, hwhole.variablesOfTokens?_eq]
    split
    · rfl
    · rfl

/-- A call as bit-field width is read as a function head. -/
theorem overlap_bitField : ∃ sig vars, signature? "unsigned flags : width(n)".toList none = some sig ∧
    declaredVariables? "unsigned flags : width(n)".toList = some vars ∧ sig.name = "width" ∧
    vars = [⟨"flags", 9, false⟩] ∧ ∀ v ∈ vars, v.offset ≠ sig.offset := by
  have hsig : signature? "unsigned flags : width(n)".toList none =
      some ⟨"width", 17, .regular, [⟨["n"], false, false⟩], false, false, false⟩ := by decide +kernel
  have htokens : declaringTokens "unsigned flags : width(n)".toList = [⟨.ident, "unsigned", 0⟩] ++
      ⟨.ident, "flags", 9⟩ :: [⟨.punct, ":", 15⟩, ⟨.ident, "width", 17⟩, ⟨.punct, "(", 22⟩, ⟨.ident, "n", 23⟩,
        ⟨.punct, ")", 24⟩] := by decide +kernel
  have honly : DeclaresOnly [⟨.ident, "unsigned", 0⟩] ⟨.ident, "flags", 9⟩ :=
    ⟨⟨"flags", 9, false⟩, by decide +kernel, rfl, rfl⟩
  obtain ⟨hiff, hoffsets⟩ := signature?_declaredVariables?_overlap hsig
  obtain ⟨vars, hvars⟩ := Option.isSome_iff_exists.1
    (hiff.2 ⟨_, _, _, htokens, honly, by decide +kernel, .inr ⟨_, rfl, .inr (by decide +kernel)⟩⟩)
  have hflags : vars = [⟨"flags", 9, false⟩] := Option.some.inj (hvars.symm.trans (by decide +kernel))
  exact ⟨_, vars, hsig, hvars, rfl, hflags, hoffsets vars hvars⟩

/-- A direct initialization behind another variable is read as a function head. -/
theorem overlap_directInitialization :
    (signature? "int a, b(x)".toList none).isSome = true ∧
      (declaredVariables? "int a, b(x)".toList).isSome = true := by
  decide +kernel

end Guideline.Declaration
