import Guideline.Check.Naming
import Guideline.Proofs.Text.Affix
import Mathlib.Tactic.SplitIfs

/-!
# Declared names are identifiers of the statement

Every way of reading a declaration gives a name together with its offset. Both are taken from one
identifier token of the statement (`named_of_mem_declaredNames`): what is left of the tokens at each step
is among those that were there, and the name of an operator, which no single token spells, is never a
name that is free to choose.
-/

namespace Guideline.Declaration

open Source

/-- One of the tokens is an identifier with this name and offset. -/
def Named (tokens : List Token) (name : LocatedName) : Prop :=
  ∃ t ∈ tokens, t.isIdent = true ∧ t.located = name

theorem Named.mono {tokens tokens' : List Token} {name : LocatedName} (h : Named tokens name)
    (hsub : tokens ⊆ tokens') : Named tokens' name := by
  obtain ⟨t, ht, hident, hname⟩ := h
  exact ⟨t, hsub ht, hident, hname⟩

/-! ### What is dropped before reading -/

theorem skipTemplate_sublist (tokens : List Token) : (skipTemplate tokens).Sublist tokens := by
  fun_induction skipTemplate tokens with
  | case1 t u rest _ n _ ih => exact (ih.trans (List.drop_sublist n _)).cons t
  | case2 => exact List.nil_sublist _
  | case3 => exact List.Sublist.refl _
  | case4 => exact List.Sublist.refl _

theorem dropAttributes_sublist (depth : Nat) (tokens : List Token) :
    (dropAttributes depth tokens).Sublist tokens := by
  fun_induction dropAttributes depth tokens with
  | case1 => exact List.Sublist.refl _
  | case2 t rest _ ih => exact ih.cons t
  | case3 t rest _ ih => exact ih.cons_cons t
  | case4 depth t rest _ ih => exact ih.cons t
  | case5 depth t rest _ _ ih => exact ih.cons t
  | case6 depth t rest _ _ ih => exact ih.cons t

theorem declaringTokens_sublist (text : List Char) : (declaringTokens text).Sublist (tokenize text) :=
  (dropAttributes_sublist 0 _).trans (skipTemplate_sublist _)

/-! ### Classes and namespaces -/

theorem afterAttribute_subset (tokens : List Token) : afterAttribute tokens ⊆ tokens :=
  List.Subset.trans (List.drop_subset 2 _) (List.dropWhile_subset _)

theorem headNames_mem {all names tokens result : List Token}
    (h : headNames names tokens = some result) (hnames : ∀ t ∈ names, t ∈ all ∧ t.isIdent = true)
    (htokens : tokens ⊆ all) : ∀ t ∈ result, t ∈ all ∧ t.isIdent = true := by
  have hreverse : ∀ {names result : List Token}, some names.reverse = some result →
      (∀ t ∈ names, t ∈ all ∧ t.isIdent = true) → ∀ t ∈ result, t ∈ all ∧ t.isIdent = true := by
    intro names result h hnames t ht
    cases h
    exact hnames t (List.mem_reverse.1 ht)
  have htail : ∀ {names : List Token}, (∀ t ∈ names, t ∈ all ∧ t.isIdent = true) →
      ∀ t ∈ names.tail, t ∈ all ∧ t.isIdent = true :=
    fun hnames t ht => hnames t (List.mem_of_mem_tail ht)
  fun_induction headNames names tokens with
  | case1 names => exact hreverse h hnames
  | case2 names t _ u more _ ih =>
    exact ih h (htail hnames) fun x hx => htokens (by simp [hx])
  | case3 names => exact hreverse h hnames
  | case4 names => exact hreverse h hnames
  | case5 => cases h
  | case6 names t rest _ _ _ ih =>
    exact ih h hnames (List.Subset.trans (afterAttribute_subset rest) (List.subset_of_cons_subset htokens))
  | case7 names t rest _ _ _ hident ih =>
    refine ih h (fun x hx => ?_) (List.subset_of_cons_subset htokens)
    split_ifs at hx
    · exact hnames x hx
    · rcases List.mem_cons.1 hx with rfl | hx
      · exact ⟨htokens (by simp), hident⟩
      · exact hnames x hx
  | case8 names t rest _ _ _ _ _ n _ ih =>
    exact ih h (htail hnames)
      (List.Subset.trans (List.drop_subset n rest) (List.subset_of_cons_subset htokens))
  | case9 => cases h
  | case10 => cases h

theorem mem_of_chooseName {names : List Token} {t : Token} (h : chooseName names = some t) :
    t ∈ names := by
  unfold chooseName at h
  split at h
  · cases h
    simp
  · split_ifs at h
    cases h
    simp
  · cases h

theorem named_of_className? {tokens : List Token} {name : LocatedName}
    (h : className? tokens = some name) : Named tokens name := by
  have hskip := (skipTemplate_sublist tokens).subset
  rw [className?] at h
  cases hkept : skipTemplate tokens with
  | nil =>
    rw [hkept] at h
    cases h
  | cons t rest =>
    rw [hkept] at h hskip
    obtain ⟨head, hhead, hsub⟩ : ∃ head, (if t.isWord "typedef" then rest else t :: rest) = head ∧
        head ⊆ t :: rest := by
      refine ⟨_, rfl, ?_⟩
      split_ifs
      · exact List.subset_cons_self t rest
      · exact List.Subset.refl _
    simp only [hhead] at h
    cases head with
    | nil => cases h
    | cons keyword rest =>
      dsimp only at h
      split_ifs at h
      obtain ⟨t, ht, rfl⟩ := Option.map_eq_some_iff.1 h
      obtain ⟨names, hnames, hchoose⟩ := Option.bind_eq_some_iff.1 ht
      obtain ⟨hmem, hident⟩ := headNames_mem hnames (by simp) (List.subset_of_cons_subset hsub) t
        (mem_of_chooseName hchoose)
      exact ⟨t, hskip hmem, hident, rfl⟩

theorem named_of_mem_namespaceNames {tokens : List Token} {name : LocatedName}
    (h : name ∈ namespaceNames tokens) : Named tokens name := by
  obtain ⟨t, ht, rfl⟩ := List.mem_map.1 h
  obtain ⟨ht, hident⟩ := List.mem_filter.1 ht
  refine ⟨t, ?_, (Bool.and_eq_true_iff.1 hident).1, rfl⟩
  exact List.dropWhile_subset _ (List.mem_of_mem_drop ht)

/-! ### Functions -/

theorem splitAtParen_subset {angles : Nat} {before tokens before' after : List Token}
    (h : splitAtParen angles before tokens = some (before', after)) :
    before' ⊆ before ++ tokens := by
  have hcons : ∀ {t : Token} {before rest : List Token}, t :: before ++ rest ⊆ before ++ t :: rest := by
    intro t before rest
    exact List.perm_middle.symm.subset
  fun_induction splitAtParen angles before tokens with
  | case1 => cases h
  | case2 angles before t rest _ ih => exact List.Subset.trans (ih h) hcons
  | case3 angles before t rest _ _ ih => exact List.Subset.trans (ih h) hcons
  | case4 angles before t rest =>
    cases h
    exact List.subset_append_left _ _
  | case5 angles before t rest _ _ _ ih => exact List.Subset.trans (ih h) hcons

theorem operatorName?_startsWith {tokens rest : List Token} {name : String}
    (h : operatorName? tokens = some (name, rest)) :
    Text.startsWith "operator".toList name.toList = true := by
  simp only [operatorName?] at h
  split at h
  · split_ifs at h
    cases h
    rw [Text.startsWith_iff]
    exact ⟨_, String.toList_ofList.symm⟩
  · cases h

theorem NamedHead.find?_named {tokens : List Token} {head : NamedHead}
    (h : NamedHead.find? tokens = some head) :
    Text.startsWith "operator".toList head.name.toList = true ∨
      Named tokens ⟨head.name, head.offset⟩ := by
  unfold NamedHead.find? at h
  split at h
  · obtain ⟨⟨name, afterParen⟩, hname, rfl⟩ := Option.map_eq_some_iff.1 h
    exact .inl (operatorName?_startsWith hname)
  · split at h
    · rename_i name before afterParen hsplit
      split_ifs at h with hident
      cases h
      exact .inr ⟨name, splitAtParen_subset hsplit (by simp), hident, rfl⟩
    · cases h

theorem named_of_ofTokens? {tokens : List Token} {className : Option String} {sig : Signature}
    (h : Signature.ofTokens? tokens className = some sig) (hkind : sig.kind = .regular) :
    Named tokens ⟨sig.name, sig.offset⟩ := by
  simp only [Signature.ofTokens?, Option.bind_eq_bind, Option.bind_eq_some_iff] at h
  obtain ⟨head, hhead, close, -, params, -, kind, hkind', h⟩ := h
  split_ifs at h
  cases h
  refine (NamedHead.find?_named hhead).resolve_left fun hoperator => ?_
  rw [NamedHead.kind?, if_pos hoperator] at hkind'
  cases hkind'
  cases hkind

/-! ### Variables -/

theorem afterScope?_subset {tokens rest : List Token} (h : afterScope? tokens = some rest) :
    rest ⊆ tokens := by
  unfold afterScope? at h
  split at h
  · split_ifs at h
    cases h
    exact List.subset_cons_of_subset _ (List.subset_cons_self _ _)
  · cases h

theorem afterArguments?_subset {tokens rest : List Token} (h : afterArguments? tokens = some rest) :
    rest ⊆ tokens := by
  unfold afterArguments? at h
  split at h
  · cases h
    exact List.Subset.refl _
  · split_ifs at h
    · obtain ⟨n, -, rfl⟩ := Option.map_eq_some_iff.1 h
      exact List.subset_cons_of_subset _ (List.drop_subset n _)
    · cases h
      exact List.Subset.refl _

theorem readQualifiedType?_subset {tokens rest : List Token}
    (h : readQualifiedType? tokens = some rest) : rest ⊆ tokens := by
  fun_induction readQualifiedType? tokens with
  | case1 => cases h
  | case2 => cases h
  | case3 t more _ after ha _ =>
    cases h
    exact List.subset_cons_of_subset t (afterArguments?_subset ha)
  | case4 t more _ after ha next hs _ _ ih =>
    have hnext := List.Subset.trans (afterScope?_subset hs) (afterArguments?_subset ha)
    exact List.subset_cons_of_subset t (List.Subset.trans (ih h) hnext)
  | case5 => cases h

theorem readType?_subset {tokens rest : List Token} (h : readType? tokens = some rest) :
    rest ⊆ tokens := by
  unfold readType? at h
  split at h
  · cases h
  · split_ifs at h
    · cases h
      exact List.dropWhile_subset _
    · refine List.Subset.trans (readQualifiedType?_subset h) ?_
      cases hscope : afterScope? _ with
      | none => exact List.Subset.refl _
      | some rest => exact afterScope?_subset hscope

theorem readIndirection_subset (isConst indirect : Bool) (tokens : List Token) :
    (readIndirection isConst indirect tokens).2.2 ⊆ tokens := by
  fun_induction readIndirection isConst indirect tokens with
  | case1 => exact List.Subset.refl _
  | case2 _ _ t rest _ ih => exact List.subset_cons_of_subset t ih
  | case3 _ _ t rest _ _ ih => exact List.subset_cons_of_subset t ih
  | case4 _ _ t rest _ _ _ ih => exact List.subset_cons_of_subset t ih
  | case5 => exact List.Subset.refl _

theorem readDeclarator?_named {baseConst : Bool} {tokens rest : List Token} {v : Variable}
    (h : readDeclarator? baseConst tokens = some (v, rest)) :
    Named tokens ⟨v.name, v.offset⟩ ∧ rest ⊆ tokens := by
  have hsub := readIndirection_subset baseConst false tokens
  obtain ⟨⟨name, after⟩, hname, heq⟩ := Option.map_eq_some_iff.1 h
  cases heq
  unfold declaratorName? at hname
  split at hname
  · cases hname
  · rename_i hread
    split_ifs at hname with hcond
    cases hname
    rw [hread] at hsub
    simp only [Bool.and_eq_true] at hcond
    exact ⟨⟨name, hsub (by simp), hcond.1.1.1, rfl⟩, List.subset_of_cons_subset hsub⟩

theorem nextDeclarator?_suffix {depth : Nat} {tokens rest : List Token}
    (h : nextDeclarator? depth tokens = some rest) : rest <:+ tokens := by
  fun_induction nextDeclarator? depth tokens with
  | case1 => cases h
  | case2 depth t more _ ih => exact (ih h).trans (List.suffix_cons t more)
  | case3 depth t more _ _ ih => exact (ih h).trans (List.suffix_cons t more)
  | case4 depth t more _ _ _ n _ ih =>
    exact ((ih h).trans (List.drop_suffix n more)).trans (List.suffix_cons t more)
  | case5 depth t more _ _ _ _ ih => exact (ih h).trans (List.suffix_cons t more)
  | case6 depth t more =>
    cases h
    exact List.suffix_cons t _
  | case7 depth t more _ _ _ _ ih => exact (ih h).trans (List.suffix_cons t more)

theorem named_of_mem_moreDeclarators {baseConst : Bool} {tokens : List Token} {v : Variable}
    (h : v ∈ moreDeclarators baseConst tokens) : Named tokens ⟨v.name, v.offset⟩ := by
  fun_induction moreDeclarators baseConst tokens with
  | case1 => cases h
  | case2 => cases h
  | case3 tokens start hstart w rest hread _ _ ih =>
    have hsub := (nextDeclarator?_suffix hstart).subset
    obtain ⟨hnamed, hrest⟩ := readDeclarator?_named hread
    rcases List.mem_cons.1 h with rfl | h
    · exact hnamed.mono hsub
    · exact (ih h).mono (List.Subset.trans hrest hsub)

theorem named_of_variablesOfTokens? {tokens : List Token} {vs : List Variable}
    (h : variablesOfTokens? tokens = some vs) : ∀ v ∈ vs, Named tokens ⟨v.name, v.offset⟩ := by
  simp only [variablesOfTokens?, Option.bind_eq_bind, Option.bind_eq_some_iff] at h
  obtain ⟨first, -, h⟩ := h
  split at h
  · cases h
  split at h
  · cases h
  obtain ⟨typed, htype, h⟩ := Option.bind_eq_some_iff.1 h
  obtain ⟨⟨v, rest⟩, hread, h⟩ := Option.bind_eq_some_iff.1 h
  obtain ⟨hnamed, hrest⟩ := readDeclarator?_named hread
  have hsub : typed.dropWhile (·.isOneOf ["const", "volatile"]) ⊆ tokens :=
    List.Subset.trans (List.dropWhile_subset _)
      (List.Subset.trans (readType?_subset htype) (List.dropWhile_subset _))
  have hfound : ∀ baseConst, ∀ w ∈ v :: moreDeclarators baseConst rest,
      Named tokens ⟨w.name, w.offset⟩ := by
    intro baseConst w hw
    rcases List.mem_cons.1 hw with rfl | hw
    · exact hnamed.mono hsub
    · exact (named_of_mem_moreDeclarators hw).mono (List.Subset.trans hrest hsub)
  split_ifs at h
  · cases h
    intro w hw
    obtain ⟨w', hw', rfl⟩ := List.mem_map.1 hw
    exact hfound _ w' hw'
  · cases h
    exact hfound _

end Guideline.Declaration

namespace Guideline.Check

open Source Declaration

theorem named_of_mem_variableNames {s : Statement} {construct : Construct} {name : LocatedName}
    (h : name ∈ variableNames s construct) : Named (tokenize s.text) name := by
  unfold variableNames at h
  split at h
  · obtain ⟨v, hv, hname⟩ := List.mem_filterMap.1 h
    cases hread : declaredVariables? s.text with
    | none =>
      rw [hread] at hv
      cases hv
    | some vs =>
      rw [hread] at hv
      have hnamed := named_of_variablesOfTokens? hread v hv
      simp only [Option.ite_none_right_eq_some, Option.some_inj] at hname
      exact hname.2 ▸ hnamed.mono (declaringTokens_sublist s.text).subset
  · cases h

theorem named_of_functionName? {s : Statement} {name : LocatedName}
    (h : functionName? s = some name) : Named (tokenize s.text) name := by
  obtain ⟨sig, hsig, hname⟩ := Option.bind_eq_some_iff.1 h
  unfold function? at hsig
  split_ifs at hsig
  simp only [Option.ite_none_right_eq_some, Option.some_inj, Bool.and_eq_true, decide_eq_true_eq] at hname
  exact hname.2 ▸ (named_of_ofTokens? hsig hname.1.1).mono (declaringTokens_sublist s.text).subset

theorem named_of_mem_declaredNames {s : Statement} {construct : Construct} {name : LocatedName}
    (h : name ∈ declaredNames s construct) : Named (tokenize s.text) name := by
  unfold declaredNames at h
  split at h
  · split_ifs at h
    · exact named_of_className? (Option.mem_toList.1 h)
    · cases h
  · split_ifs at h
    · exact named_of_mem_namespaceNames h
    · cases h
  · exact named_of_functionName? (Option.mem_toList.1 h)
  · exact named_of_mem_variableNames h

end Guideline.Check
