import Guideline.Declaration.Signature
import Guideline.Proofs.Declaration.Nesting
import Guideline.Proofs.Text.Affix

/-!
# Function heads are read back

A grammar of function heads (`FunctionHead`): specifiers, a return type, a name that may be qualified,
parameters with default arguments, and what may follow the parameter list. Every statement whose tokens
are such a head is read as the function that the head declares (`signature?_functionHead`).
-/

namespace Guideline.Declaration

open Source

/-! ### The grammar -/

/-- A parameter as it is written. -/
structure ParameterText where
  declared : List Token
  /-- The default argument with the sign before it, or nothing. -/
  defaultArgument : List Token
  starts_ident : ∃ t ∈ declared.head?, t.isIdent = true
  not_assigned : ∀ t ∈ declared, t.isPunct '=' = false
  assigned : ∀ t ∈ defaultArgument.head?, t.isPunct '=' = true
  nested : Nested [.paren, .angle, .square, .brace] (fun t => t.isPunct ',' = false)
    (declared ++ defaultArgument)
  not_void : ∀ t, declared ++ defaultArgument = [t] → t.isWord "void" = false
  attributeFree : AttributeFree (declared ++ defaultArgument)

namespace ParameterText

def tokens (p : ParameterText) : List Token :=
  p.declared ++ p.defaultArgument

/-- What the parameter declares: its words and whether it is a reference go by what stands before the
default argument. -/
def param (p : ParameterText) : Param where
  words := (p.declared.filter (·.isIdent)).map (·.text)
  isReference := p.declared.any (·.isPunct '&')
  hasDefault := !p.defaultArgument.isEmpty

end ParameterText

/-- Tokens `A::B::`. -/
inductive Qualifiers : List Token → Prop where
  | nil : Qualifiers []
  | cons {q c d : Token} {ts : List Token} : q.isIdent = true → c.isPunct ':' = true →
    d.isPunct ':' = true → Qualifiers ts → Qualifiers (q :: c :: d :: ts)

/-- A token of a return type. -/
def IsReturnToken (t : Token) : Prop :=
  (t.isIdent = true ∧ t.text ∉ specifiers ∧ t.text ∉ notInSignature) ∨
    t.isPunctIn [':', '<', '>', '*', '&', ','] = true

instance (t : Token) : Decidable (IsReturnToken t) :=
  inferInstanceAs (Decidable (_ ∨ _))

/-- What may follow a parameter list. -/
inductive TailStart : List Token → Prop where
  | nil : TailStart []
  | word {t : Token} {ts : List Token} : t.isOneOf tailWords = true → TailStart (t :: ts)
  | sign {t : Token} {ts : List Token} : t.isPunctIn ['=', ':', '&'] = true → TailStart (t :: ts)
  | arrow {t u : Token} {ts : List Token} : t.isPunct '-' = true → u.isPunct '>' = true →
    TailStart (t :: u :: ts)

/-- The head of a function with a return type. -/
structure FunctionHead where
  specifierWords : List Token
  returnType : List Token
  qualifiers : List Token
  name : Token
  openParen : Token
  params : List ParameterText
  paramTokens : List Token
  closeParen : Token
  tail : List Token
  specifierWords_mem : ∀ t ∈ specifierWords, t.isOneOf specifiers = true
  returnType_token : ∀ t ∈ returnType, IsReturnToken t
  returnType_nested : Nested [.angle] (fun _ => True) returnType
  returnType_ident : ∃ t ∈ returnType, t.isIdent = true
  /-- The return type does not end in `::`. -/
  returnType_last : ∀ t ∈ returnType.getLast?, t.isPunct ':' = false
  qualifiers_spec : Qualifiers qualifiers
  name_ident : name.isIdent = true
  name_not_operator : ¬ "operator".toList <+: name.text.toList
  isOpen : openParen.isPunct '(' = true
  isClose : closeParen.isPunct ')' = true
  separated : CommaSeparated (params.map ParameterText.tokens) paramTokens
  tail_start : TailStart tail
  tail_attributeFree : AttributeFree tail

namespace FunctionHead

def tokens (head : FunctionHead) : List Token :=
  head.specifierWords ++ head.returnType ++ head.qualifiers ++
    head.name :: head.openParen :: (head.paramTokens ++ head.closeParen :: head.tail)

end FunctionHead

/-! ### The name -/

theorem splitAtOperator_eq_none {tokens : List Token} (h : ∀ t ∈ tokens, t.isWord "operator" = false)
    (before : List Token) : splitAtOperator before tokens = none := by
  induction tokens generalizing before with
  | nil => rfl
  | cons t rest ih =>
    rw [splitAtOperator, h t (by simp), if_neg (by simp)]
    exact ih (fun u hu => h u (by simp [hu])) _

section SplitAtParen

variable {t : Token} {before rest : List Token}

theorem splitAtParen_opening (h : t.isPunct '<' = true) (angles : Nat) :
    splitAtParen angles before (t :: rest) = splitAtParen (angles + 1) (t :: before) rest := by
  simp [splitAtParen, h]

theorem splitAtParen_closing (h : t.isPunct '>' = true) (angles : Nat) :
    splitAtParen angles before (t :: rest) = splitAtParen (angles - 1) (t :: before) rest := by
  simp [splitAtParen, Token.isPunct_eq h]

theorem splitAtParen_plain (hopen : t.isPunct '<' = false) (hclose : t.isPunct '>' = false) {angles : Nat}
    (hparen : t.isPunct '(' = false ∨ 0 < angles) :
    splitAtParen angles before (t :: rest) = splitAtParen angles (t :: before) rest := by
  have hno : ¬ (t.isPunct '(' && angles == 0) = true := by
    rcases hparen with hparen | hpos
    · simp [hparen]
    · simp [Nat.ne_of_gt hpos]
  rw [splitAtParen, hopen, hclose, if_neg (by simp), if_neg (by simp), if_neg hno]

theorem splitAtParen_paren (h : t.isPunct '(' = true) :
    splitAtParen 0 before (t :: rest) = some (before, rest) := by
  simp [splitAtParen, Token.isPunct_eq h]

/-- Nested tokens without parentheses are passed over. -/
theorem splitAtParen_append {ts : List Token} {outside : Token → Prop} (h : Nested [.angle] outside ts)
    (hparen : ∀ t ∈ ts, t.isPunct '(' = false) (angles : Nat) (before rest : List Token) :
    splitAtParen angles before (ts ++ rest) = splitAtParen angles (ts.reverse ++ before) rest := by
  induction h generalizing angles before rest with
  | nil => rfl
  | plain hplain _ _ ih =>
    obtain ⟨hopen, hclose⟩ := hplain .angle (by simp)
    rw [List.cons_append, splitAtParen_plain hopen hclose (.inl (hparen _ (by simp))),
      ih (fun u hu => hparen u (by simp [hu]))]
    simp
  | @group _ b o c inner ts hb ho hc _ _ ihInner ih =>
    obtain rfl : b = .angle := by simpa using hb
    rw [List.cons_append, List.append_assoc, List.cons_append, splitAtParen_opening ho,
      ihInner (fun u hu => hparen u (by simp [hu])), splitAtParen_closing hc, Nat.add_sub_cancel,
      ih (fun u hu => hparen u (by simp [hu]))]
    simp

end SplitAtParen

theorem dropQualifiers_append {qs : List Token} (h : Qualifiers qs) (before : List Token) :
    dropQualifiers (qs.reverse ++ before) = dropQualifiers before := by
  induction h generalizing before with
  | nil => rfl
  | cons hq hc hd _ ih =>
    simp only [List.reverse_cons, List.append_assoc, List.cons_append, List.nil_append]
    rw [ih, dropQualifiers, hq, hc, hd]
    simp

theorem dropQualifiers_eq_self {before : List Token} (h : ∀ t ∈ before.head?, t.isPunct ':' = false) :
    dropQualifiers before = before := by
  unfold dropQualifiers
  split
  · rw [h _ rfl]
    simp
  · rfl

theorem Qualifiers.ident_or_colon {qs : List Token} (h : Qualifiers qs) :
    ∀ t ∈ qs, t.isIdent = true ∨ t.isPunct ':' = true := by
  induction h with
  | nil => simp
  | cons hq hc hd _ ih => simp_all

namespace FunctionHead

variable (head : FunctionHead)

/-- What stands before the name. -/
def beforeName : List Token :=
  head.specifierWords ++ head.returnType ++ head.qualifiers

theorem isIdent_of_specifier {t : Token} (ht : t ∈ head.specifierWords) : t.isIdent = true :=
  (Token.isOneOf_iff.1 (head.specifierWords_mem t ht)).1

/-- Tokens before the name are identifiers or signs of a type. -/
theorem ident_or_sign {t : Token} (ht : t ∈ head.beforeName) :
    t.isIdent = true ∨ t.isPunctIn [':', '<', '>', '*', '&', ','] = true := by
  rcases List.mem_append.1 ht with ht | ht
  · rcases List.mem_append.1 ht with ht | ht
    · exact .inl (head.isIdent_of_specifier ht)
    · exact (head.returnType_token t ht).imp And.left id
  · refine (head.qualifiers_spec.ident_or_colon t ht).imp id fun hcolon => ?_
    rw [Token.isPunctIn_eq hcolon]
    decide

theorem isPunct_eq_false_of_mem {c : Char} (hc : c ∉ [':', '<', '>', '*', '&', ',']) {t : Token}
    (ht : t ∈ head.beforeName) : t.isPunct c = false := by
  rcases head.ident_or_sign ht with hident | hsign
  · exact Token.isPunct_eq_false hident c
  · rw [← Bool.not_eq_true]
    intro hpunct
    rw [Token.isPunctIn_eq hpunct] at hsign
    exact hc (of_decide_eq_true hsign)

theorem nested_beforeName : Nested [.angle] (fun _ => True) head.beforeName := by
  have hident : ∀ {t : Token}, t.isIdent = true ∨ t.isPunct ':' = true → True ∧
      ∀ b ∈ [Bracket.angle], t.isPunct b.opening = false ∧ t.isPunct b.closing = false := by
    intro t ht
    refine ⟨trivial, fun b _ => ?_⟩
    rcases ht with ht | ht
    · exact ⟨Token.isPunct_eq_false ht _, Token.isPunct_eq_false ht _⟩
    · rw [Token.isPunct_eq ht, Token.isPunct_eq ht]
      cases b <;> decide
  refine (Nested.append (.of_forall fun t ht => ?_) head.returnType_nested).append (.of_forall fun t ht => ?_)
  · exact hident (.inl (head.isIdent_of_specifier ht))
  · exact hident (head.qualifiers_spec.ident_or_colon t ht)

theorem find?_tokens (hwords : ∀ t ∈ head.tokens, t.isWord "operator" = false) :
    NamedHead.find? head.tokens = some (.ofBefore head.beforeName.reverse head.name.text head.name.offset
      (head.paramTokens ++ head.closeParen :: head.tail)) := by
  have hparen : ∀ t ∈ head.beforeName, t.isPunct '(' = false :=
    fun t ht => head.isPunct_eq_false_of_mem (by decide) ht
  have hname := Token.isPunct_eq_false head.name_ident
  have hsplit : splitAtParen 0 [] head.tokens =
      some (head.name :: head.beforeName.reverse, head.paramTokens ++ head.closeParen :: head.tail) := by
    show splitAtParen 0 [] (head.beforeName ++ _) = _
    rw [splitAtParen_append head.nested_beforeName hparen,
      splitAtParen_plain (hname _) (hname _) (.inl (hname _)), splitAtParen_paren head.isOpen, List.append_nil]
  rw [NamedHead.find?, splitAtOperator_eq_none hwords, hsplit]
  simp [head.name_ident]

theorem ofBefore_beforeName (name : String) (offset : Nat) (after : List Token) :
    ∃ qualifier, NamedHead.ofBefore head.beforeName.reverse name offset after =
      { lead := head.specifierWords ++ head.returnType, qualifier, hasTilde := false, name, offset,
        afterParen := after } := by
  have htilde : head.beforeName.reverse.head?.any (·.isPunct '~') = false := by
    rw [← Bool.not_eq_true, Option.any_eq_true]
    rintro ⟨t, ht, htilde⟩
    rw [List.head?_reverse] at ht
    rw [head.isPunct_eq_false_of_mem (by decide) (List.mem_of_getLast? ht)] at htilde
    cases htilde
  have hlead : dropQualifiers head.beforeName.reverse = (head.specifierWords ++ head.returnType).reverse := by
    obtain ⟨u, hu, -⟩ := head.returnType_ident
    rw [beforeName, List.reverse_append, dropQualifiers_append head.qualifiers_spec]
    refine dropQualifiers_eq_self fun t ht => head.returnType_last t ?_
    rwa [List.head?_reverse, List.getLast?_append_of_ne_nil _ (List.ne_nil_of_mem hu)] at ht
  refine ⟨lastQualifier head.beforeName.reverse, ?_⟩
  rw [NamedHead.ofBefore, htilde]
  simp [hlead]

end FunctionHead

/-! ### The parameters -/

section SplitParams

variable {ts : List Token} {outside : Token → Prop}

/-- Nested tokens belong to one piece, as far as no comma stands outside of their brackets. -/
theorem splitParams_append (h : Nested [.paren, .angle, .square, .brace] outside ts) {depth : Nat}
    (hcomma : 0 < depth ∨ ∀ t, outside t → t.isPunct ',' = false) (piece rest : List Token) :
    splitParams depth piece (ts ++ rest) = splitParams depth (piece ++ ts) rest := by
  induction h generalizing depth piece rest with
  | nil => simp
  | @plain outside t ts hplain hout _ ih =>
    have hno : ¬ (t.isPunct ',' && depth == 0) = true := by
      rcases hcomma with hpos | hcomma
      · simp [Nat.ne_of_gt hpos]
      · simp [hcomma t hout]
    have hbracket : t.isPunctIn ['(', '<', '[', '{'] = false ∧ t.isPunctIn [')', '>', ']', '}'] = false :=
      Bracket.isPunctIn_of_plain hplain
    rw [List.cons_append, splitParams, hbracket.1, hbracket.2, if_neg (by simp), if_neg (by simp),
      if_neg hno, ih hcomma]
    simp
  | @group outside b o c inner ts hb ho hc _ _ ihInner ih =>
    have hopen : o.isPunctIn ['(', '<', '[', '{'] = true := Bracket.isPunctIn_opening hb ho
    have hclose : c.isPunctIn ['(', '<', '[', '{'] = false ∧ c.isPunctIn [')', '>', ']', '}'] = true :=
      Bracket.isPunctIn_closing hb hc
    rw [List.cons_append, List.append_assoc, List.cons_append, splitParams, hopen, if_pos rfl,
      ihInner (.inl (Nat.succ_pos depth)), splitParams, hclose.1, hclose.2, if_neg (by simp), if_pos rfl,
      Nat.succ_sub_one, ih hcomma]
    simp

theorem splitParams_comma {comma : Token} (h : comma.isPunct ',' = true) (piece rest : List Token) :
    splitParams 0 piece (comma :: rest) = piece :: splitParams 0 [] rest := by
  rw [splitParams, Token.isPunctIn_eq h, Token.isPunctIn_eq h, if_neg (by decide), if_neg (by decide), h]
  rfl

end SplitParams

namespace ParameterText

variable (p : ParameterText)

theorem read?_tokens : Param.read? p.tokens = some p.param := by
  obtain ⟨t, ht, hident⟩ := p.starts_ident
  have hdeclared : p.tokens.takeWhile (fun t => !t.isPunct '=') = p.declared := by
    rw [tokens, List.takeWhile_append_of_pos fun t ht => by simp [p.not_assigned t ht]]
    cases hdefault : p.defaultArgument with
    | nil => simp
    | cons u rest => simp [p.assigned u (by simp [hdefault])]
  have hassigned : p.tokens.any (·.isPunct '=') = !p.defaultArgument.isEmpty := by
    rw [tokens, List.any_append, List.any_eq_false.2 fun t ht => by simp [p.not_assigned t ht], Bool.false_or]
    cases hdefault : p.defaultArgument with
    | nil => rfl
    | cons u rest => simp [p.assigned u (by simp [hdefault])]
  obtain ⟨rest, hrest⟩ : ∃ rest, p.tokens = t :: rest := by
    obtain ⟨rest, hrest⟩ := List.head?_eq_some_iff.1 ht
    exact ⟨rest ++ p.defaultArgument, by rw [tokens, hrest, List.cons_append]⟩
  have hstart : startsParam t = true := by
    rw [startsParam, beq_iff_eq.1 hident]
  rw [hrest] at hdeclared hassigned ⊢
  rw [Param.read?, if_pos hstart, hdeclared, hassigned]
  rfl

theorem tokens_ne_nil : p.tokens ≠ [] := by
  obtain ⟨t, ht, -⟩ := p.starts_ident
  obtain ⟨rest, hrest⟩ := List.head?_eq_some_iff.1 ht
  simp [tokens, hrest]

end ParameterText

theorem splitParams_separated {params : List ParameterText} (hne : params ≠ []) {tokens : List Token}
    (h : CommaSeparated (params.map ParameterText.tokens) tokens) :
    splitParams 0 [] tokens = params.map ParameterText.tokens := by
  induction params generalizing tokens with
  | nil => exact absurd rfl hne
  | cons p params ih =>
    have hpiece : ∀ rest, splitParams 0 [] (p.tokens ++ rest) = splitParams 0 p.tokens rest :=
      splitParams_append p.nested (.inr fun t ht => ht) []
    cases params with
    | nil =>
      cases h
      rw [← List.append_nil p.tokens, hpiece]
      rfl
    | cons p' params =>
      cases h with
      | cons hcomma htokens =>
        rw [hpiece, splitParams_comma hcomma, ih (by simp) htokens]
        rfl

theorem nested_separated {params : List ParameterText} {tokens : List Token}
    (h : CommaSeparated (params.map ParameterText.tokens) tokens) :
    Nested [.paren, .angle, .square, .brace] (fun _ => True) tokens := by
  refine h.whole .nil (fun piece hpiece => ?_) fun hpiece hcomma hrest => ?_
  · obtain ⟨p, -, rfl⟩ := List.mem_map.1 hpiece
    exact p.nested.mono fun _ _ => trivial
  · refine hpiece.append (.plain (fun b _ => ?_) trivial hrest)
    rw [Token.isPunct_eq hcomma, Token.isPunct_eq hcomma]
    cases b <;> decide

theorem attributeFree_separated {params : List ParameterText} {tokens : List Token}
    (h : CommaSeparated (params.map ParameterText.tokens) tokens) : AttributeFree tokens := by
  refine h.whole .nil (fun piece hpiece => ?_) fun hpiece hcomma hrest => ?_
  · obtain ⟨p, -, rfl⟩ := List.mem_map.1 hpiece
    exact p.attributeFree
  · refine hpiece.append_cons ?_ hrest
    rw [Token.isPunct_eq hcomma]
    decide

/-- A parameter list is not just `void`. -/
theorem not_void_separated {params : List ParameterText} {t : Token}
    (h : CommaSeparated (params.map ParameterText.tokens) [t]) : t.isWord "void" = false := by
  match params with
  | [] => cases h
  | [p] =>
    generalize hts : [t] = ts at h
    cases h
    exact p.not_void t hts.symm
  | p :: p' :: params =>
    generalize hts : [t] = ts at h
    cases h
    have hlen := congrArg List.length hts
    have hpos := List.length_pos_iff.2 p.tokens_ne_nil
    simp only [List.length_append, List.length_cons, List.length_nil] at hlen
    omega

theorem mapM_read?_tokens (params : List ParameterText) :
    (params.map ParameterText.tokens).mapM Param.read? = some (params.map ParameterText.param) := by
  induction params with
  | nil => rfl
  | cons p params ih => simp [List.mapM_cons, p.read?_tokens, ih]

theorem readParams?_separated {params : List ParameterText} {tokens : List Token}
    (h : CommaSeparated (params.map ParameterText.tokens) tokens) :
    readParams? tokens = some (params.map ParameterText.param) := by
  by_cases hne : params = []
  · subst hne
    cases h
    rfl
  · have hsplit := splitParams_separated hne h
    have htokens : tokens ≠ [] := by
      rintro rfl
      rw [splitParams] at hsplit
      obtain ⟨p, -, hp⟩ := List.mem_map.1 (hsplit ▸ List.mem_singleton_self [])
      exact p.tokens_ne_nil hp
    have hno : ¬ (tokens.isEmpty || (tokens.length == 1 && tokens.any (·.isWord "void"))) = true := by
      rw [Bool.or_eq_true, Bool.and_eq_true, beq_iff_eq, List.isEmpty_iff]
      rintro (hnil | ⟨hlen, hvoid⟩)
      · exact htokens hnil
      · obtain ⟨t, rfl⟩ := List.length_eq_one_iff.1 hlen
        simp [not_void_separated h] at hvoid
    rw [readParams?, if_neg hno, hsplit, mapM_read?_tokens]

/-! ### The signature -/

/-- Somewhere in the tokens `= word` stands. -/
def Assigns (word : String) (tokens : List Token) : Prop :=
  ∃ a e w b, tokens = a ++ e :: w :: b ∧ e.isPunct '=' = true ∧ w.isWord word = true

theorem assignsWord_iff {word : String} {tokens : List Token} :
    assignsWord word tokens = true ↔ Assigns word tokens := by
  have hshort : ∀ {tokens : List Token}, tokens.length < 2 → ¬ Assigns word tokens := by
    rintro _ hlen ⟨a, e, w, b, rfl, -, -⟩
    simp only [List.length_append, List.length_cons] at hlen
    omega
  match tokens with
  | [] => simp [assignsWord, hshort]
  | [t] => simp [assignsWord, hshort]
  | t :: u :: rest =>
    rw [assignsWord, Bool.or_eq_true, Bool.and_eq_true, assignsWord_iff]
    constructor
    · rintro (⟨ht, hu⟩ | ⟨a, e, w, b, heq, he, hw⟩)
      · exact ⟨[], t, u, rest, rfl, ht, hu⟩
      · exact ⟨t :: a, e, w, b, by rw [heq, List.cons_append], he, hw⟩
    · rintro ⟨_ | ⟨x, a⟩, e, w, b, heq, he, hw⟩
      · obtain ⟨rfl, rfl, -⟩ : t = e ∧ u = w ∧ rest = b := by simpa using heq
        exact .inl ⟨he, hw⟩
      · exact .inr ⟨a, e, w, b, (List.cons.inj heq).2, he, hw⟩

theorem TailStart.isSignatureTail {tail : List Token} (h : TailStart tail) : isSignatureTail tail = true := by
  cases h with
  | nil => rfl
  | word ht =>
    obtain ⟨hident, hmem⟩ := Token.isOneOf_iff.1 ht
    simp [Declaration.isSignatureTail, hident, hmem]
  | sign ht =>
    obtain ⟨c, -, hc⟩ := Token.isPunctIn_iff.1 ht
    simp [Declaration.isSignatureTail, Token.isIdent_eq_false hc, ht]
  | arrow ht hu => simp [Declaration.isSignatureTail, Token.isIdent_eq_false ht, ht, hu]

namespace FunctionHead

variable (head : FunctionHead)

theorem leadAllows_of_mem {t : Token} (ht : t ∈ head.specifierWords ++ head.returnType) :
    leadAllows t = true := by
  have hident : t.isIdent = true → t.text ∉ notInSignature → leadAllows t = true := by
    intro hident hmem
    rw [leadAllows, beq_iff_eq.1 hident]
    simpa using hmem
  rcases List.mem_append.1 ht with ht | ht
  · obtain ⟨hi, hmem⟩ := Token.isOneOf_iff.1 (head.specifierWords_mem t ht)
    have hdisjoint : ∀ w ∈ specifiers, w ∉ notInSignature := by decide
    exact hident hi (hdisjoint _ hmem)
  · rcases head.returnType_token t ht with ⟨hi, -, hmem⟩ | hsign
    · exact hident hi hmem
    · obtain ⟨c, -, hc⟩ := Token.isPunctIn_iff.1 hsign
      rw [leadAllows, (Token.isPunct_iff.1 hc).1]
      exact hsign

theorem attributeFree_tokens : AttributeFree head.tokens := by
  have hbefore : AttributeFree head.beforeName :=
    .of_forall fun t ht => head.isPunct_eq_false_of_mem (by decide) ht
  have hafter : AttributeFree (head.paramTokens ++ head.closeParen :: head.tail) := by
    refine (attributeFree_separated head.separated).append_cons ?_ head.tail_attributeFree
    rw [Token.isPunct_eq head.isClose]
    decide
  have hopen : head.openParen.isPunct '[' = false := by
    rw [Token.isPunct_eq head.isOpen]
    decide
  exact hbefore.append_cons (Token.isPunct_eq_false head.name_ident _) (.append_cons (a := []) .nil hopen hafter)

theorem parenEnd_params :
    parenEnd 1 (head.paramTokens ++ head.closeParen :: head.tail) = some (head.paramTokens.length + 1) := by
  rw [(nested_separated head.separated).parenEnd_append (by simp) Nat.one_pos, parenEnd_last head.isClose,
    Option.map_some, Nat.add_comm]

theorem kind?_eq (className qualifier : Option String) (after : List Token) :
    NamedHead.kind?
      { lead := head.specifierWords ++ head.returnType, qualifier, hasTilde := false,
        name := head.name.text, offset := head.name.offset, afterParen := after } className =
      some .regular := by
  have hoperator : ¬ Text.startsWith "operator".toList head.name.text.toList = true := by
    rw [Text.startsWith_iff]
    exact head.name_not_operator
  have hreturn : (head.specifierWords ++ head.returnType).any
      (fun t => t.isIdent && !specifiers.contains t.text) = true := by
    obtain ⟨t, ht, hident⟩ := head.returnType_ident
    rcases head.returnType_token t ht with ⟨-, hspec, -⟩ | hsign
    · refine List.any_eq_true.2 ⟨t, List.mem_append_right _ ht, ?_⟩
      simp [hident, hspec]
    · rw [Token.isPunctIn_eq_false hident] at hsign
      cases hsign
  rw [NamedHead.kind?, if_neg hoperator, if_neg (by simp), if_pos hreturn]

theorem isExplicit_iff :
    (head.specifierWords ++ head.returnType).any (·.isWord "explicit") = true ↔
      ∃ t ∈ head.specifierWords, t.isWord "explicit" = true := by
  rw [List.any_eq_true]
  constructor
  · rintro ⟨t, ht, hword⟩
    rcases List.mem_append.1 ht with ht | ht
    · exact ⟨t, ht, hword⟩
    · obtain ⟨hident, htext⟩ := Token.isWord_iff.1 hword
      rcases head.returnType_token t ht with ⟨-, hspec, -⟩ | hsign
      · rw [htext] at hspec
        exact absurd (by decide) hspec
      · rw [Token.isPunctIn_eq_false hident] at hsign
        cases hsign
  · rintro ⟨t, ht, hword⟩
    exact ⟨t, List.mem_append_left _ ht, hword⟩

end FunctionHead

/-- A statement that is the head of a function with a return type is read as that function. -/
theorem signature?_functionHead (head : FunctionHead) {text : List Char}
    (htext : tokenize text = head.tokens)
    (hwords : ∀ t ∈ tokenize text, t.isWord "operator" = false ∧ t.isWord "template" = false)
    (className : Option String) :
    ∃ sig, signature? text className = some sig ∧
      sig.kind = .regular ∧ sig.name = head.name.text ∧ sig.offset = head.name.offset ∧
      sig.params = head.params.map ParameterText.param ∧
      (sig.isExplicit = true ↔ ∃ t ∈ head.specifierWords, t.isWord "explicit" = true) ∧
      (sig.isDeleted = true ↔ Assigns "delete" head.tail) ∧
      (sig.isDefaulted = true ↔ Assigns "default" head.tail) := by
  have htokens : declaringTokens text = head.tokens := by
    rw [declaringTokens_eq (fun t ht => (hwords t (List.mem_of_mem_head? ht)).2), htext]
    exact htext ▸ head.attributeFree_tokens
  obtain ⟨qualifier, hbefore⟩ := head.ofBefore_beforeName head.name.text head.name.offset
    (head.paramTokens ++ head.closeParen :: head.tail)
  have hlead : (head.specifierWords ++ head.returnType).all leadAllows = true :=
    List.all_eq_true.2 fun t ht => head.leadAllows_of_mem ht
  rw [signature?, htokens, Signature.ofTokens?, head.find?_tokens fun t ht => (hwords t (htext ▸ ht)).1, hbefore]
  simp only [Option.bind_eq_bind, Option.bind_some, head.parenEnd_params]
  have hdrop : (head.paramTokens ++ head.closeParen :: head.tail).drop (head.paramTokens.length + 1) =
      head.tail := by simp
  rw [Nat.add_sub_cancel, List.take_left, readParams?_separated head.separated, Option.bind_some, hdrop,
    head.kind?_eq, Option.bind_some, hlead, head.tail_start.isSignatureTail]
  exact ⟨_, rfl, rfl, rfl, rfl, rfl, head.isExplicit_iff, assignsWord_iff, assignsWord_iff⟩

/-- The parameter `D<E, F> d = {1, 2}`. -/
def sampleDefaulted : ParameterText where
  declared := [⟨.ident, "D", 17⟩, ⟨.punct, "<", 18⟩, ⟨.ident, "E", 19⟩, ⟨.punct, ",", 20⟩,
    ⟨.ident, "F", 22⟩, ⟨.punct, ">", 23⟩, ⟨.ident, "d", 25⟩]
  defaultArgument := [⟨.punct, "=", 27⟩, ⟨.punct, "\x7b", 29⟩, ⟨.number, "1", 30⟩, ⟨.punct, ",", 31⟩,
    ⟨.number, "2", 33⟩, ⟨.punct, "\x7d", 34⟩]
  starts_ident := by decide
  not_assigned := by decide
  assigned := by decide
  nested := by
    refine .plain (by decide) (by decide) ?_
    refine @Nested.group _ _ .angle _ _ [_, _, _] _ (by decide) (by decide) (by decide) (.of_forall (by decide)) ?_
    refine .plain (by decide) (by decide) (.plain (by decide) (by decide) ?_)
    exact @Nested.group _ _ .brace _ _ [_, _, _] [] (by decide) (by decide) (by decide) (.of_forall (by decide)) .nil
  not_void := by simp
  attributeFree := .of_forall (by decide)

/-- The parameter `G& g`. -/
def sampleReference : ParameterText where
  declared := [⟨.ident, "G", 37⟩, ⟨.punct, "&", 38⟩, ⟨.ident, "g", 40⟩]
  defaultArgument := []
  starts_ident := by decide
  not_assigned := by decide
  assigned := by decide
  nested := .of_forall (by decide)
  not_void := by simp
  attributeFree := .of_forall (by decide)

/-- The head `static A<B> C::f(D<E, F> d = {1, 2}, G& g) const`. -/
def sampleHead : FunctionHead where
  specifierWords := [⟨.ident, "static", 0⟩]
  returnType := [⟨.ident, "A", 7⟩, ⟨.punct, "<", 8⟩, ⟨.ident, "B", 9⟩, ⟨.punct, ">", 10⟩]
  qualifiers := [⟨.ident, "C", 12⟩, ⟨.punct, ":", 13⟩, ⟨.punct, ":", 14⟩]
  name := ⟨.ident, "f", 15⟩
  openParen := ⟨.punct, "(", 16⟩
  params := [sampleDefaulted, sampleReference]
  paramTokens := sampleDefaulted.tokens ++ ⟨.punct, ",", 35⟩ :: sampleReference.tokens
  closeParen := ⟨.punct, ")", 41⟩
  tail := [⟨.ident, "const", 43⟩]
  specifierWords_mem := by decide
  returnType_token := by decide
  returnType_nested := by
    refine .plain (by decide) trivial ?_
    exact @Nested.group _ _ .angle _ _ [_] [] (by decide) (by decide) (by decide) (.of_forall (by decide)) .nil
  returnType_ident := by decide
  returnType_last := by decide
  qualifiers_spec := .cons (by decide) (by decide) (by decide) .nil
  name_ident := by decide
  name_not_operator := by decide
  isOpen := by decide
  isClose := by decide
  separated := .cons (by decide) .single
  tail_start := .word (by decide)
  tail_attributeFree := .of_forall (by decide)

theorem signature?_sampleHead :
    ∃ sig, signature? "static A<B> C::f(D<E, F> d = \x7b1, 2\x7d, G& g) const".toList none = some sig ∧
      sig.name = "f" ∧ sig.offset = 15 ∧
      sig.params = [⟨["D", "E", "F", "d"], false, true⟩, ⟨["G", "g"], true, false⟩] := by
  obtain ⟨sig, hsig, -, hname, hoffset, hparams, -⟩ :=
    @signature?_functionHead sampleHead "static A<B> C::f(D<E, F> d = \x7b1, 2\x7d, G& g) const".toList
      (by decide +kernel) (by decide +kernel) none
  exact ⟨sig, hsig, hname, hoffset, hparams.trans (by decide)⟩

end Guideline.Declaration
