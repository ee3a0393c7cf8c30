import Guideline.Declaration.Variable
import Guideline.Proofs.Declaration.Nesting

/-!
# Variable declarations are read back

A grammar of variable declarations (`VariableDeclaration`): specifiers, a type, `const` and `volatile`,
and declarators with pointer marks, array bounds and initializers. Every statement whose tokens are such
a declaration is read as its variables in order, and each of them is constant just if the declaration
says so (`declaredVariables?_variableDeclaration`).
-/

namespace Guideline.Declaration

open Source

/-! ### The grammar -/

/-- Template arguments with their brackets, or nothing. -/
inductive TypeArguments : List Token → Prop where
  | none : TypeArguments []
  | some {o c : Token} {inner : List Token} : o.isPunct '<' = true → c.isPunct '>' = true →
    Nested [.paren, .angle] (fun _ => True) inner → TypeArguments (o :: (inner ++ [c]))

/-- An identifier that may stand in the name of a type. -/
def IsTypeWord (t : Token) : Prop :=
  t.isIdent = true ∧ t.text ∉ notInDeclaration ∧ t.text ∉ variableSpecifiers ∧ t.text ∉ builtinTypeWords

instance (t : Token) : Decidable (IsTypeWord t) :=
  inferInstanceAs (Decidable (_ ∧ _))

/-- Identifiers joined by `::`, each with optional template arguments. -/
inductive TypeName : List Token → Prop where
  | last {t : Token} {args : List Token} : IsTypeWord t → TypeArguments args → TypeName (t :: args)
  | scope {t c d : Token} {args rest : List Token} : IsTypeWord t → TypeArguments args →
    c.isPunct ':' = true → d.isPunct ':' = true → TypeName rest →
    TypeName (t :: (args ++ c :: d :: rest))

inductive TypeTokens : List Token → Prop where
  | builtin {t : Token} {ts : List Token} : (∀ u ∈ t :: ts, u.isOneOf builtinTypeWords = true) →
    TypeTokens (t :: ts)
  | named {ts : List Token} : TypeName ts → TypeTokens ts

/-- What may follow the name of a declarator: array bounds, and then a braced or an assigned
initializer. -/
inductive DeclaratorSuffix : List Token → Prop where
  | nil : DeclaratorSuffix []
  | bound {o c : Token} {inner rest : List Token} : o.isPunct '[' = true → c.isPunct ']' = true →
    Nested [.paren, .square, .brace] (fun _ => True) inner → DeclaratorSuffix rest →
    DeclaratorSuffix (o :: (inner ++ c :: rest))
  | braced {o c : Token} {inner : List Token} : o.isPunct '{' = true → c.isPunct '}' = true →
    Nested [.paren, .square, .brace] (fun _ => True) inner → DeclaratorSuffix (o :: (inner ++ [c]))
  | assigned {sign : Token} {value : List Token} : sign.isPunct '=' = true →
    Nested [.paren, .square, .brace] (fun t => t.isPunct ',' = false ∧ t.isPunct '<' = false) value →
    DeclaratorSuffix (sign :: value)

/-- A pointer or reference mark. -/
def IsPointer (t : Token) : Prop :=
  t.isPunctIn ['*', '&'] = true

structure Declarator where
  marks : List Token
  name : Token
  suffix : List Token
  marks_spec : ∀ t ∈ marks, IsPointer t ∨ t.isOneOf ["const", "volatile"] = true
  name_ident : name.isIdent = true
  name_not_mem : name.text ∉ "operator" :: "const" :: "volatile" :: builtinTypeWords
  suffix_spec : DeclaratorSuffix suffix

namespace Declarator

def tokens (d : Declarator) : List Token :=
  d.marks ++ d.name :: d.suffix

/-- Neither a pointer nor a reference. -/
def IsDirect (d : Declarator) : Prop :=
  ∀ t ∈ d.marks, ¬ IsPointer t

end Declarator

/-- Some `const` has no pointer or reference mark after it. -/
def ConstLast (marks : List Token) : Prop :=
  ∃ a t b, marks = a ++ t :: b ∧ t.isWord "const" = true ∧ ∀ u ∈ b, ¬ IsPointer u

structure VariableDeclaration where
  specifierWords : List Token
  typeTokens : List Token
  /-- What is said of the type behind it. -/
  typeQualifiers : List Token
  declarators : List Declarator
  declaratorTokens : List Token
  specifierWords_mem : ∀ t ∈ specifierWords, t.isOneOf variableSpecifiers = true
  typeTokens_spec : TypeTokens typeTokens
  typeQualifiers_mem : ∀ t ∈ typeQualifiers, t.isOneOf ["const", "volatile"] = true
  declarators_ne_nil : declarators ≠ []
  /-- What stands between the type and the first pointer mark belongs to the type. -/
  first_marks : ∀ d ∈ declarators.head?, ∀ t ∈ d.marks.head?, IsPointer t
  separated : CommaSeparated (declarators.map Declarator.tokens) declaratorTokens
  attributeFree :
    AttributeFree (specifierWords ++ typeTokens ++ typeQualifiers ++ declaratorTokens)

namespace VariableDeclaration

def tokens (decl : VariableDeclaration) : List Token :=
  decl.specifierWords ++ decl.typeTokens ++ decl.typeQualifiers ++ decl.declaratorTokens

/-- A declarator declares a constant: by `constexpr`, by its own last `const`, or by a `const` at the
type if it is no pointer or reference. -/
def IsConstant (decl : VariableDeclaration) (d : Declarator) : Prop :=
  (∃ t ∈ decl.specifierWords, t.isWord "constexpr" = true) ∨ ConstLast d.marks ∨
    d.IsDirect ∧ ∃ t ∈ decl.specifierWords ++ decl.typeQualifiers, t.isWord "const" = true

end VariableDeclaration

/-! ### The type -/

section ReadType

variable {rest : List Token}

theorem afterScope?_eq_some_iff {tokens : List Token} :
    afterScope? tokens = some rest ↔
      ∃ c d, tokens = c :: d :: rest ∧ c.isPunct ':' = true ∧ d.isPunct ':' = true := by
  constructor
  · intro h
    unfold afterScope? at h
    split at h
    next c d more =>
      split at h
      next hcolons =>
        cases h
        exact ⟨c, d, rfl, Bool.and_eq_true_iff.1 hcolons⟩
      next => cases h
    next => cases h
  · rintro ⟨c, d, rfl, hc, hd⟩
    simp [afterScope?, hc, hd]

theorem afterScope?_eq_none {tokens : List Token} (h : ∀ t ∈ tokens.head?, t.isPunct ':' = false) :
    afterScope? tokens = none := by
  rw [Option.eq_none_iff_forall_ne_some]
  intro rest hsome
  obtain ⟨c, d, rfl, hc, -⟩ := afterScope?_eq_some_iff.1 hsome
  rw [h c rfl] at hc
  cases hc

theorem afterArguments?_append {args : List Token} (h : TypeArguments args)
    (hrest : ∀ t ∈ rest.head?, t.isPunct '<' = false) : afterArguments? (args ++ rest) = some rest := by
  cases h with
  | none =>
    cases rest with
    | nil => rfl
    | cons t rest => simp [afterArguments?, hrest t rfl]
  | @some o c inner ho hc hinner =>
    have hend : angleEnd 0 1 (inner ++ c :: rest) = some (inner.length + 1) := by
      rw [hinner.angleEnd_append (by simp) (by simp) 0 Nat.one_pos, angleEnd_last hc, Option.map_some,
        Nat.add_comm]
    rw [List.cons_append, List.append_assoc, List.singleton_append, afterArguments?, if_pos ho, hend]
    simp

theorem readQualifiedType?_cons (t : Token) (rest : List Token) :
    readQualifiedType? (t :: rest) =
      if t.isIdent then
        (afterArguments? rest).bind fun after =>
          match afterScope? after with
          | none => some after
          | some next => readQualifiedType? next
      else none := by
  rw [readQualifiedType?]
  split
  · split
    next ha => simp [ha]
    next after ha =>
      split
      next hs => simp [ha, hs]
      next next' hs => simp [ha, hs]
  · rfl

theorem readQualifiedType?_append {ts : List Token} (h : TypeName ts)
    (hangle : ∀ t ∈ rest.head?, t.isPunct '<' = false) (hcolon : ∀ t ∈ rest.head?, t.isPunct ':' = false) :
    readQualifiedType? (ts ++ rest) = some rest := by
  induction h with
  | last ht hargs =>
    rw [List.cons_append, readQualifiedType?_cons, if_pos ht.1, afterArguments?_append hargs hangle,
      Option.bind_some, afterScope?_eq_none hcolon]
  | @scope t c d args ts ht hargs hc hd _ ih =>
    have hnext : afterScope? (c :: d :: (ts ++ rest)) = some (ts ++ rest) :=
      afterScope?_eq_some_iff.2 ⟨c, d, rfl, hc, hd⟩
    have hafter : ∀ t ∈ (c :: d :: (ts ++ rest)).head?, t.isPunct '<' = false := by
      intro u hu
      obtain rfl : c = u := by simpa using hu
      rw [Token.isPunct_eq hc]
      decide
    rw [List.cons_append, List.append_assoc, List.cons_append, List.cons_append, readQualifiedType?_cons,
      if_pos ht.1, afterArguments?_append hargs hafter, Option.bind_some, hnext]
    exact ih

theorem IsTypeWord.isOneOf_eq_false {t : Token} (h : IsTypeWord t) :
    t.isOneOf builtinTypeWords = false ∧ t.isOneOf variableSpecifiers = false := by
  simp only [Token.isOneOf, h.2.2.1, h.2.2.2, List.contains_eq_mem, decide_false, Bool.and_false, and_self]

theorem IsPointer.isPunct_eq_false {t : Token} (h : IsPointer t) {c : Char} (hc : c ∉ ['*', '&']) :
    t.isPunct c = false := by
  obtain ⟨d, hd, ht⟩ := Token.isPunctIn_iff.1 h
  rw [Token.isPunct_eq ht, decide_eq_false_iff_not]
  rintro rfl
  exact hc hd

theorem IsPointer.isOneOf_eq_false {t : Token} (h : IsPointer t) (words : List String) :
    t.isOneOf words = false := by
  obtain ⟨d, -, ht⟩ := Token.isPunctIn_iff.1 h
  exact Token.isOneOf_eq_false ht words

/-- What may stand behind a type. -/
def FollowsType (t : Token) : Prop :=
  t.isIdent = true ∧ t.text ∉ builtinTypeWords ∨ IsPointer t

theorem FollowsType.isPunct_eq_false {t : Token} (h : FollowsType t) {c : Char} (hc : c ∉ ['*', '&']) :
    t.isPunct c = false := by
  rcases h with ⟨hident, -⟩ | hpointer
  · exact Token.isPunct_eq_false hident c
  · exact hpointer.isPunct_eq_false hc

theorem FollowsType.not_builtin {t : Token} (h : FollowsType t) : t.isOneOf builtinTypeWords = false := by
  rcases h with ⟨-, htext⟩ | hpointer
  · simp [Token.isOneOf, htext]
  · exact hpointer.isOneOf_eq_false _

theorem dropWhile_append_of_head {p : Token → Bool} {ts rest : List Token} (hts : ∀ t ∈ ts, p t = true)
    (hrest : ∀ t ∈ rest.head?, p t = false) :
    (ts ++ rest).dropWhile p = rest ∧ (ts ++ rest).takeWhile p = ts := by
  rw [List.dropWhile_append_of_pos hts, List.takeWhile_append_of_pos hts]
  cases rest with
  | nil => simp
  | cons t rest => simp [hrest t rfl]

theorem readType?_append {ts : List Token} (h : TypeTokens ts) (hrest : ∀ t ∈ rest.head?, FollowsType t) :
    readType? (ts ++ rest) = some rest := by
  cases h with
  | @builtin t ts hts =>
    have hdrop := (dropWhile_append_of_head hts fun t ht => (hrest t ht).not_builtin).1
    rw [List.cons_append, readType?, if_pos (hts t (by simp)), ← List.cons_append, hdrop]
  | named hname =>
    have hread := readQualifiedType?_append hname (fun t ht => (hrest t ht).isPunct_eq_false (by decide))
      fun t ht => (hrest t ht).isPunct_eq_false (by decide)
    obtain ⟨t, more, htokens, ht⟩ : ∃ t more, ts ++ rest = t :: more ∧ IsTypeWord t := by
      cases hname with
      | last ht _ => exact ⟨_, _, rfl, ht⟩
      | scope ht _ _ _ _ => exact ⟨_, _, rfl, ht⟩
    have hscope : afterScope? (t :: more) = none :=
      afterScope?_eq_none (by simp [Token.isPunct_eq_false ht.1])
    rw [htokens] at hread ⊢
    rw [readType?, if_neg (by simp [ht.isOneOf_eq_false]), hscope]
    exact hread

end ReadType

/-! ### Declarators -/

theorem constLast_cons {t : Token} {marks : List Token} :
    ConstLast (t :: marks) ↔ ConstLast marks ∨ t.isWord "const" = true ∧ ∀ u ∈ marks, ¬ IsPointer u := by
  constructor
  · rintro ⟨_ | ⟨x, a⟩, k, b, heq, hk, hb⟩
    · obtain ⟨rfl, rfl⟩ := List.cons.inj heq
      exact .inr ⟨hk, hb⟩
    · exact .inl ⟨a, k, b, (List.cons.inj heq).2, hk, hb⟩
  · rintro (⟨a, k, b, rfl, hk, hb⟩ | ⟨ht, hmarks⟩)
    · exact ⟨t :: a, k, b, rfl, hk, hb⟩
    · exact ⟨[], t, marks, rfl, ht, hmarks⟩

section ReadIndirection

variable {t : Token} {rest : List Token} (isConst indirect : Bool)

theorem readIndirection_const (h : t.isWord "const" = true) :
    readIndirection isConst indirect (t :: rest) = readIndirection true false rest := by
  rw [readIndirection, if_pos h]

theorem readIndirection_volatile (h : t.isWord "volatile" = true) :
    readIndirection isConst indirect (t :: rest) = readIndirection isConst indirect rest := by
  have hconst : t.isWord "const" = false := by
    obtain ⟨-, htext⟩ := Token.isWord_iff.1 h
    simp [Token.isWord, htext]
  rw [readIndirection, hconst, if_neg (by simp), if_pos h]

theorem readIndirection_pointer (h : IsPointer t) :
    readIndirection isConst indirect (t :: rest) = readIndirection isConst true rest := by
  obtain ⟨c, -, hc⟩ := Token.isPunctIn_iff.1 h
  rw [readIndirection, Token.isWord_eq_false hc, Token.isWord_eq_false hc, if_neg (by simp),
    if_neg (by simp)]
  exact if_pos h

theorem readIndirection_name (hident : t.isIdent = true) (hconst : t.isWord "const" = false)
    (hvolatile : t.isWord "volatile" = false) :
    readIndirection isConst indirect (t :: rest) = (isConst, indirect, t :: rest) := by
  rw [readIndirection, hconst, hvolatile, Token.isPunctIn_eq_false hident, if_neg (by simp),
    if_neg (by simp), if_neg (by simp)]

/-- Reading the marks leaves the name and what follows, and tells whether the name is constant. -/
theorem readIndirection_append {marks : List Token} {name : Token}
    (hmarks : ∀ t ∈ marks, IsPointer t ∨ t.isOneOf ["const", "volatile"] = true)
    (hident : name.isIdent = true) (hconst : name.isWord "const" = false)
    (hvolatile : name.isWord "volatile" = false) :
    ∃ isConst' indirect', readIndirection isConst indirect (marks ++ name :: rest) =
        (isConst', indirect', name :: rest) ∧
      ((isConst' && !indirect') = true ↔
        ConstLast marks ∨ (∀ t ∈ marks, ¬ IsPointer t) ∧ (isConst && !indirect) = true) := by
  induction marks generalizing isConst indirect with
  | nil =>
    refine ⟨isConst, indirect, readIndirection_name isConst indirect hident hconst hvolatile, ?_⟩
    simp [ConstLast]
  | cons t marks ih =>
    have ih := fun isConst indirect => ih isConst indirect fun u hu => hmarks u (by simp [hu])
    rw [List.cons_append]
    simp only [constLast_cons, List.forall_mem_cons]
    rcases hmarks t (by simp) with hpointer | hword
    · obtain ⟨c, -, hc⟩ := Token.isPunctIn_iff.1 hpointer
      rw [readIndirection_pointer isConst indirect hpointer, Token.isWord_eq_false hc]
      simpa [hpointer] using ih isConst true
    · obtain ⟨hident, htext⟩ := Token.isOneOf_iff.1 hword
      have hdirect : ¬ IsPointer t := by simp [IsPointer, Token.isPunctIn_eq_false hident]
      rcases (by simpa using htext : t.text = "const" ∨ t.text = "volatile") with htext | htext
      · have hconst : t.isWord "const" = true := Token.isWord_iff.2 ⟨hident, htext⟩
        obtain ⟨isConst', indirect', hread, hiff⟩ := ih true false
        refine ⟨isConst', indirect', (readIndirection_const isConst indirect hconst).trans hread, hiff.trans ?_⟩
        constructor
        · rintro (h | ⟨h, -⟩)
          · exact .inl (.inl h)
          · exact .inl (.inr ⟨hconst, h⟩)
        · rintro ((h | ⟨-, h⟩) | ⟨⟨-, h⟩, -⟩)
          · exact .inl h
          · exact .inr ⟨h, rfl⟩
          · exact .inr ⟨h, rfl⟩
      · have hvolatile : t.isWord "volatile" = true := Token.isWord_iff.2 ⟨hident, htext⟩
        have hconst : t.isWord "const" = false := by simp [Token.isWord, htext]
        obtain ⟨isConst', indirect', hread, hiff⟩ := ih isConst indirect
        refine ⟨isConst', indirect', (readIndirection_volatile isConst indirect hvolatile).trans hread,
          hiff.trans ?_⟩
        simp [hconst, hdirect]

end ReadIndirection

section NextDeclarator

variable {rest : List Token}

/-- Nested tokens are passed over, as far as neither a comma nor an angle bracket stands outside of their
brackets. -/
theorem nextDeclarator?_append {ts : List Token} {outside : Token → Prop}
    (h : Nested [.paren, .square, .brace] outside ts) {depth : Nat}
    (hout : 0 < depth ∨ ∀ t, outside t → t.isPunct ',' = false ∧ t.isPunct '<' = false) (rest : List Token) :
    nextDeclarator? depth (ts ++ rest) = nextDeclarator? depth rest := by
  induction h generalizing depth rest with
  | nil => rfl
  | @plain outside t ts hplain ht _ ih =>
    have hno : (t.isPunct '<' && depth == 0) = false ∧ (t.isPunct ',' && depth == 0) = false := by
      rcases hout with hpos | hout
      · simp [Nat.ne_of_gt hpos]
      · simp [hout t ht]
    have hbracket : t.isPunctIn ['(', '[', '{'] = false ∧ t.isPunctIn [')', ']', '}'] = false :=
      Bracket.isPunctIn_of_plain hplain
    rw [List.cons_append, nextDeclarator?, hbracket.1, hbracket.2, hno.1, hno.2]
    exact ih hout rest
  | @group outside b o c inner ts hb ho hc _ _ ihInner ih =>
    have hopen : o.isPunctIn ['(', '[', '{'] = true := Bracket.isPunctIn_opening hb ho
    have hclose : c.isPunctIn ['(', '[', '{'] = false ∧ c.isPunctIn [')', ']', '}'] = true :=
      Bracket.isPunctIn_closing hb hc
    rw [List.cons_append, List.append_assoc, List.cons_append, nextDeclarator?, if_pos hopen,
      ihInner (.inl (Nat.succ_pos depth)), nextDeclarator?, hclose.1, hclose.2]
    exact ih hout rest

theorem nextDeclarator?_comma {comma : Token} (h : comma.isPunct ',' = true) :
    nextDeclarator? 0 (comma :: rest) = some rest := by
  rw [nextDeclarator?]
  simp [Token.isPunctIn_eq h, Token.isPunct_eq h]

theorem DeclaratorSuffix.nested {suffix : List Token} (h : DeclaratorSuffix suffix) :
    Nested [.paren, .square, .brace] (fun t => t.isPunct ',' = false ∧ t.isPunct '<' = false) suffix := by
  induction h with
  | nil => exact .nil
  | bound ho hc hinner _ ih => exact @Nested.group _ _ .square _ _ _ _ (by simp) ho hc hinner ih
  | braced ho hc hinner => exact @Nested.group _ _ .brace _ _ _ _ (by simp) ho hc hinner .nil
  | assigned hsign hvalue =>
    refine .plain (fun b _ => ?_) ?_ hvalue
    · rw [Token.isPunct_eq hsign, Token.isPunct_eq hsign]
      cases b <;> decide
    · rw [Token.isPunct_eq hsign, Token.isPunct_eq hsign]
      decide

theorem DeclaratorSuffix.nextDeclarator?_append {suffix : List Token} (h : DeclaratorSuffix suffix)
    (rest : List Token) : nextDeclarator? 0 (suffix ++ rest) = nextDeclarator? 0 rest :=
  Declaration.nextDeclarator?_append h.nested (.inr fun _ ht => ht) rest

theorem DeclaratorSuffix.endsDeclarator_append {suffix : List Token} (h : DeclaratorSuffix suffix)
    (hrest : ∀ t ∈ rest.head?, t.isPunct ',' = true) : endsDeclarator (suffix ++ rest) = true := by
  have hsign : ∀ {t : Token} {c : Char} {more : List Token}, t.isPunct c = true → c ∈ ['=', '{', '[', ','] →
      endsDeclarator (t :: more) = true := by
    intro t c more ht hc
    have hcolon : t.isPunct ':' = false := by
      rw [Token.isPunct_eq ht, decide_eq_false_iff_not]
      rintro rfl
      exact absurd hc (by decide)
    rw [endsDeclarator, hcolon, Token.isPunctIn_eq ht]
    simpa using hc
  cases h with
  | nil =>
    cases rest with
    | nil => rfl
    | cons t rest => exact hsign (hrest t rfl) (by decide)
  | bound ho _ _ _ => exact hsign ho (by decide)
  | braced ho _ _ => exact hsign ho (by decide)
  | assigned ho _ => exact hsign ho (by decide)

end NextDeclarator

/-- The token names the variable, and what follows it ends a declarator. -/
structure NamesVariable (name : Token) (rest : List Token) (v : Variable) : Prop where
  isIdent : name.isIdent = true
  not_builtin : name.text ∉ builtinTypeWords
  not_operator : name.isWord "operator" = false
  ends : endsDeclarator rest = true
  text_eq : v.name = name.text
  offset_eq : v.offset = name.offset

theorem declaratorName?_eq_some_iff {tokens rest : List Token} {name : Token} :
    declaratorName? tokens = some (name, rest) ↔ tokens = name :: rest ∧ name.isIdent = true ∧
      name.text ∉ builtinTypeWords ∧ name.isWord "operator" = false ∧ endsDeclarator rest = true := by
  cases tokens with
  | nil => simp [declaratorName?]
  | cons t more =>
    rw [declaratorName?, Option.ite_none_right_eq_some]
    simp only [Bool.and_eq_true, Bool.not_eq_true', List.contains_eq_mem, decide_eq_false_iff_not, and_assoc,
      Option.some_inj, Prod.mk.injEq, List.cons.injEq]
    constructor
    · rintro ⟨hident, hbuiltin, hoperator, hends, rfl, rfl⟩
      exact ⟨rfl, rfl, hident, hbuiltin, hoperator, hends⟩
    · rintro ⟨rfl, rfl, hident, hbuiltin, hoperator, hends⟩
      exact ⟨hident, hbuiltin, hoperator, hends, rfl, rfl⟩

theorem readDeclarator?_eq_some_iff {baseConst : Bool} {tokens rest : List Token} {v : Variable} :
    readDeclarator? baseConst tokens = some (v, rest) ↔
      ∃ name, (readIndirection baseConst false tokens).2.2 = name :: rest ∧ NamesVariable name rest v ∧
        v.isConstant = ((readIndirection baseConst false tokens).1 &&
          !(readIndirection baseConst false tokens).2.1) := by
  rw [readDeclarator?, Option.map_eq_some_iff]
  constructor
  · rintro ⟨⟨name, after⟩, hname, heq⟩
    obtain ⟨htokens, hident, hbuiltin, hoperator, hends⟩ := declaratorName?_eq_some_iff.1 hname
    cases heq
    exact ⟨name, htokens, ⟨hident, hbuiltin, hoperator, hends, rfl, rfl⟩, rfl⟩
  · rintro ⟨name, htokens, hname, hconst⟩
    refine ⟨(name, rest), declaratorName?_eq_some_iff.2
      ⟨htokens, hname.isIdent, hname.not_builtin, hname.not_operator, hname.ends⟩, ?_⟩
    cases v
    simp only [← hconst, ← hname.text_eq, ← hname.offset_eq]

theorem moreDeclarators_of_none {baseConst : Bool} {tokens : List Token}
    (h : nextDeclarator? 0 tokens = none) : moreDeclarators baseConst tokens = [] := by
  rw [moreDeclarators]
  split
  · rfl
  · simp_all

theorem moreDeclarators_of_some {baseConst : Bool} {tokens start rest : List Token} {v : Variable}
    (h : nextDeclarator? 0 tokens = some start) (hread : readDeclarator? baseConst start = some (v, rest)) :
    moreDeclarators baseConst tokens = v :: moreDeclarators baseConst rest := by
  rw [moreDeclarators]
  split
  · simp_all
  · next start' hstart =>
    obtain rfl : start = start' := Option.some.inj (h.symm.trans hstart)
    split
    · simp_all
    · next v' rest' hread' =>
      cases hread.symm.trans hread'
      rfl

namespace Declarator

variable (d : Declarator)

theorem name_not_word {word : String} (hword : word ∈ "operator" :: "const" :: "volatile" :: builtinTypeWords) :
    d.name.isWord word = false := by
  rw [← Bool.not_eq_true, Token.isWord_iff]
  rintro ⟨-, htext⟩
  exact d.name_not_mem (htext ▸ hword)

/-- What a declarator declares where the type is constant or not. -/
def Declares (baseConst : Bool) (d : Declarator) (v : Variable) : Prop :=
  v.name = d.name.text ∧ v.offset = d.name.offset ∧
    (v.isConstant = true ↔ ConstLast d.marks ∨ d.IsDirect ∧ baseConst = true)

theorem readDeclarator?_tokens (baseConst : Bool) {rest : List Token}
    (hrest : ∀ t ∈ rest.head?, t.isPunct ',' = true) :
    ∃ v, readDeclarator? baseConst (d.tokens ++ rest) = some (v, d.suffix ++ rest) ∧ Declares baseConst d v := by
  obtain ⟨isConst, indirect, hread, hiff⟩ :=
    @readIndirection_append (d.suffix ++ rest) baseConst false d.marks d.name d.marks_spec d.name_ident
      (d.name_not_word (by decide)) (d.name_not_word (by decide))
  have hname : NamesVariable d.name (d.suffix ++ rest) ⟨d.name.text, d.name.offset, isConst && !indirect⟩ :=
    ⟨d.name_ident, fun h => d.name_not_mem (by simp [h]), d.name_not_word (by decide),
      d.suffix_spec.endsDeclarator_append hrest, rfl, rfl⟩
  rw [tokens, List.append_assoc, List.cons_append]
  refine ⟨_, readDeclarator?_eq_some_iff.2 ⟨d.name, ?_, hname, ?_⟩, rfl, rfl, ?_⟩
  · rw [hread]
  · rw [hread]
  · simpa [IsDirect] using hiff

/-- All declarators of a list are read, each as what it declares. -/
theorem readDeclarators_separated (baseConst : Bool) (d : Declarator) (ds : List Declarator)
    {tokens : List Token} (h : CommaSeparated ((d :: ds).map Declarator.tokens) tokens) :
    ∃ v rest, readDeclarator? baseConst tokens = some (v, rest) ∧
      List.Forall₂ (Declares baseConst) (d :: ds) (v :: moreDeclarators baseConst rest) := by
  induction ds generalizing d tokens with
  | nil =>
    cases h
    obtain ⟨v, hread, hv⟩ := @readDeclarator?_tokens d baseConst [] (by simp)
    rw [List.append_nil] at hread
    have hlast : nextDeclarator? 0 (d.suffix ++ []) = none := by
      rw [d.suffix_spec.nextDeclarator?_append, nextDeclarator?]
    refine ⟨v, _, hread, .cons hv ?_⟩
    rw [moreDeclarators_of_none hlast]
    exact .nil
  | cons d' ds ih =>
    cases h with
    | @cons _ _ _ comma tokens hcomma htokens =>
      obtain ⟨v, hread, hv⟩ := @readDeclarator?_tokens d baseConst (comma :: tokens) (by simpa using hcomma)
      obtain ⟨v', rest, hread', hmore⟩ := ih d' htokens
      have hnext : nextDeclarator? 0 (d.suffix ++ comma :: tokens) = some tokens := by
        rw [d.suffix_spec.nextDeclarator?_append, nextDeclarator?_comma hcomma]
      refine ⟨v, _, hread, .cons hv ?_⟩
      rw [moreDeclarators_of_some hnext hread']
      exact hmore

end Declarator

/-! ### The declaration -/

/-- A `const` stands at the type, before it or behind it. -/
def baseConst (tokens typed : List Token) : Bool :=
  (tokens.takeWhile (·.isOneOf variableSpecifiers) ++ typed.takeWhile (·.isOneOf ["const", "volatile"])).any
    (·.isWord "const")

/-- The tokens start as a declaration does: behind specifiers and a type, which `typed` follows, stands
the declarator of `v`, and behind its name `rest`. -/
structure StartsDeclaration (tokens typed : List Token) (v : Variable) (rest : List Token) : Prop where
  first : ∃ t ∈ tokens.head?, t.isIdent = true ∧ t.text ∉ notInDeclaration
  no_literal : ∀ t ∈ (tokens.dropWhile (·.isOneOf variableSpecifiers)).head?, t.kind ≠ .literal
  type : readType? (tokens.dropWhile (·.isOneOf variableSpecifiers)) = some typed
  declarator : readDeclarator? (baseConst tokens typed)
    (typed.dropWhile (·.isOneOf ["const", "volatile"])) = some (v, rest)

theorem StartsDeclaration.variablesOfTokens?_eq {tokens typed rest : List Token} {v : Variable}
    (h : StartsDeclaration tokens typed v rest) :
    variablesOfTokens? tokens =
      if (tokens.takeWhile (·.isOneOf variableSpecifiers)).any (·.isWord "constexpr") then
        some ((v :: moreDeclarators (baseConst tokens typed) rest).map fun v => { v with isConstant := true })
      else some (v :: moreDeclarators (baseConst tokens typed) rest) := by
  obtain ⟨t, ht, hident, hnot⟩ := h.first
  have hallowed : (!t.isIdent || notInDeclaration.contains t.text) = false := by simp [hident, hnot]
  have hliteral : ((tokens.dropWhile (·.isOneOf variableSpecifiers)).head?.any (·.kind == .literal)) = false := by
    rw [← Bool.not_eq_true, Option.any_eq_true]
    rintro ⟨u, hu, hkind⟩
    exact h.no_literal u hu (beq_iff_eq.1 hkind)
  have hread := h.declarator
  rw [baseConst] at hread
  simp only [variablesOfTokens?, Option.bind_eq_bind, Option.mem_def.1 ht, Option.bind_some, hallowed, hliteral,
    h.type, hread, Bool.false_eq_true, if_false]
  rfl

theorem exists_startsDeclaration {tokens : List Token} {vs : List Variable}
    (h : variablesOfTokens? tokens = some vs) : ∃ typed v rest, StartsDeclaration tokens typed v rest := by
  simp only [variablesOfTokens?, Option.bind_eq_bind, Option.bind_eq_some_iff] at h
  obtain ⟨first, hfirst, h⟩ := h
  split at h
  · cases h
  next hallowed =>
    split at h
    · cases h
    next hliteral =>
      obtain ⟨typed, htype, h⟩ := Option.bind_eq_some_iff.1 h
      obtain ⟨⟨v, rest⟩, hread, -⟩ := Option.bind_eq_some_iff.1 h
      refine ⟨typed, v, rest, ⟨first, hfirst, ?_⟩, fun t ht hkind => hliteral ?_, htype, hread⟩
      · simpa using hallowed
      · rw [Option.mem_def.1 ht]
        exact beq_iff_eq.2 hkind

theorem TypeTokens.head {ts : List Token} (h : TypeTokens ts) :
    ∃ t rest, ts = t :: rest ∧ t.isIdent = true ∧ t.text ∉ notInDeclaration ∧
      t.isOneOf variableSpecifiers = false := by
  have hword : ∀ {t : Token}, IsTypeWord t →
      t.isIdent = true ∧ t.text ∉ notInDeclaration ∧ t.isOneOf variableSpecifiers = false :=
    fun ht => ⟨ht.1, ht.2.1, ht.isOneOf_eq_false.2⟩
  cases h with
  | @builtin t ts hts =>
    have hdisjoint : ∀ word ∈ builtinTypeWords, word ∉ notInDeclaration ∧ word ∉ variableSpecifiers := by
      decide
    obtain ⟨hident, htext⟩ := Token.isOneOf_iff.1 (hts t (by simp))
    refine ⟨t, ts, rfl, hident, (hdisjoint _ htext).1, ?_⟩
    simp [Token.isOneOf, (hdisjoint _ htext).2]
  | named hname =>
    cases hname with
    | last ht _ => exact ⟨_, _, rfl, hword ht⟩
    | scope ht _ _ _ _ => exact ⟨_, _, rfl, hword ht⟩

namespace VariableDeclaration

variable (decl : VariableDeclaration)

theorem head_declaratorTokens {t : Token} (ht : t ∈ decl.declaratorTokens.head?) :
    FollowsType t ∧ t.isOneOf ["const", "volatile"] = false := by
  obtain ⟨d, ds, hds⟩ := List.exists_cons_of_ne_nil decl.declarators_ne_nil
  have hsep := decl.separated
  have hmarks := decl.first_marks d (by simp [hds])
  obtain ⟨more, hmore⟩ : ∃ more, decl.declaratorTokens = d.tokens ++ more := by
    rw [hds, List.map_cons] at hsep
    generalize decl.declaratorTokens = tokens, d.tokens = piece, ds.map Declarator.tokens = pieces at hsep
    cases hsep with
    | single => exact ⟨[], by simp⟩
    | cons => exact ⟨_, rfl⟩
  rw [hmore, Declarator.tokens] at ht
  generalize d.marks = marks at hmarks ht
  cases marks with
  | nil =>
    obtain rfl : d.name = t := by simpa using ht
    have hnot := d.name_not_mem
    simp only [List.mem_cons, not_or] at hnot
    refine ⟨.inl ⟨d.name_ident, hnot.2.2.2⟩, ?_⟩
    simp [Token.isOneOf, hnot.2.1, hnot.2.2.1]
  | cons u marks =>
    obtain rfl : u = t := by simpa using ht
    exact ⟨.inr (hmarks u rfl), (hmarks u rfl).isOneOf_eq_false _⟩

theorem head_typeQualifiers {t : Token} (ht : t ∈ (decl.typeQualifiers ++ decl.declaratorTokens).head?) :
    FollowsType t := by
  have hmem := decl.typeQualifiers_mem
  cases hq : decl.typeQualifiers with
  | nil =>
    rw [hq, List.nil_append] at ht
    exact (decl.head_declaratorTokens ht).1
  | cons u more =>
    rw [hq] at ht hmem
    obtain rfl : u = t := by simpa using ht
    obtain ⟨hident, htext⟩ := Token.isOneOf_iff.1 (hmem u (by simp))
    exact .inl ⟨hident, (by decide : ∀ word ∈ ["const", "volatile"], word ∉ builtinTypeWords) _ htext⟩

theorem tokens_eq :
    decl.tokens = decl.specifierWords ++ (decl.typeTokens ++ (decl.typeQualifiers ++ decl.declaratorTokens)) := by
  simp only [tokens, List.append_assoc]

/-- The specifiers end where the type starts. -/
theorem span_specifierWords :
    decl.tokens.dropWhile (·.isOneOf variableSpecifiers) =
        decl.typeTokens ++ (decl.typeQualifiers ++ decl.declaratorTokens) ∧
      decl.tokens.takeWhile (·.isOneOf variableSpecifiers) = decl.specifierWords := by
  obtain ⟨t, rest, htype, -, -, hspecifier⟩ := decl.typeTokens_spec.head
  rw [tokens_eq]
  refine dropWhile_append_of_head decl.specifierWords_mem fun u hu => ?_
  obtain rfl : t = u := by simpa [htype] using hu
  exact hspecifier

/-- The declaration starts with a specifier or with the first word of its type. -/
theorem head_tokens : ∃ t ∈ decl.tokens.head?, t.isIdent = true ∧ t.text ∉ notInDeclaration := by
  obtain ⟨t, rest, htype, hident, hnot, -⟩ := decl.typeTokens_spec.head
  have hmem := decl.specifierWords_mem
  rw [tokens_eq, htype]
  generalize decl.specifierWords = words at hmem ⊢
  cases words with
  | nil => exact ⟨t, rfl, hident, hnot⟩
  | cons u words =>
    obtain ⟨hident, htext⟩ := Token.isOneOf_iff.1 (hmem u (by simp))
    exact ⟨u, rfl, hident, (by decide : ∀ word ∈ variableSpecifiers, word ∉ notInDeclaration) _ htext⟩

theorem declaringTokens_eq {text : List Char} (htext : tokenize text = decl.tokens) :
    declaringTokens text = decl.tokens := by
  rw [Declaration.declaringTokens_eq, htext]
  · intro t ht
    obtain ⟨u, hu, -, hnot⟩ := decl.head_tokens
    obtain rfl : u = t := Option.mem_unique hu (htext ▸ ht)
    rw [← Bool.not_eq_true, Token.isWord_iff]
    rintro ⟨-, heq⟩
    exact hnot (by rw [heq]; decide)
  · rw [htext]
    exact decl.attributeFree

/-- The first declarator stands behind the type, and each declarator is read as what it declares. -/
theorem exists_startsDeclaration : ∃ typed v rest, StartsDeclaration decl.tokens typed v rest ∧
    List.Forall₂ (Declarator.Declares
      ((decl.specifierWords ++ decl.typeQualifiers).any (·.isWord "const"))) decl.declarators
      (v :: moreDeclarators (baseConst decl.tokens typed) rest) := by
  obtain ⟨hdrop, htake⟩ := decl.span_specifierWords
  obtain ⟨hdropType, htakeType⟩ := @dropWhile_append_of_head (·.isOneOf ["const", "volatile"])
    decl.typeQualifiers decl.declaratorTokens decl.typeQualifiers_mem fun t ht => (decl.head_declaratorTokens ht).2
  have hbase : baseConst decl.tokens (decl.typeQualifiers ++ decl.declaratorTokens) =
      (decl.specifierWords ++ decl.typeQualifiers).any (·.isWord "const") := by
    rw [baseConst, htake, htakeType]
  obtain ⟨d, ds, hds⟩ := List.exists_cons_of_ne_nil decl.declarators_ne_nil
  have hsep := decl.separated
  rw [hds] at hsep
  obtain ⟨v, rest, hread, hmore⟩ := Declarator.readDeclarators_separated
    ((decl.specifierWords ++ decl.typeQualifiers).any (·.isWord "const")) d ds hsep
  refine ⟨decl.typeQualifiers ++ decl.declaratorTokens, v, rest, ⟨decl.head_tokens, ?_, ?_, ?_⟩, ?_⟩
  · intro t ht hkind
    obtain ⟨u, more, htype, hident, -⟩ := decl.typeTokens_spec.head
    obtain rfl : u = t := by simpa [hdrop, htype] using ht
    simp [Token.isIdent, hkind] at hident
  · rw [hdrop]
    exact readType?_append decl.typeTokens_spec fun t ht => decl.head_typeQualifiers ht
  · rw [hbase, hdropType]
    exact hread
  · rw [hbase, hds]
    exact hmore

end VariableDeclaration

/-- A statement that is a variable declaration declares one variable for each declarator, in order, under
its name and at its place, and the variable is constant just if the declaration makes it so. -/
theorem declaredVariables?_variableDeclaration (decl : VariableDeclaration) {text : List Char}
    (htext : tokenize text = decl.tokens) :
    ∃ vars, declaredVariables? text = some vars ∧
      List.Forall₂ (fun d v => v.name = d.name.text ∧ v.offset = d.name.offset ∧
        (v.isConstant = true ↔ decl.IsConstant d)) decl.declarators vars := by
  obtain ⟨typed, v, rest, hstart, hdeclares⟩ := decl.exists_startsDeclaration
  have hread := hstart.variablesOfTokens?_eq
  have hbase : (decl.specifierWords ++ decl.typeQualifiers).any (·.isWord "const") = true ↔
      ∃ t ∈ decl.specifierWords ++ decl.typeQualifiers, t.isWord "const" = true := List.any_eq_true
  rw [decl.span_specifierWords.2] at hread
  rw [declaredVariables?, decl.declaringTokens_eq htext, hread]
  by_cases hconstexpr : decl.specifierWords.any (·.isWord "constexpr") = true
  · refine ⟨_, if_pos hconstexpr, ?_⟩
    rw [List.forall₂_map_right_iff]
    refine hdeclares.imp fun d v hv => ⟨hv.1, hv.2.1, ?_⟩
    simp [VariableDeclaration.IsConstant, List.any_eq_true.1 hconstexpr]
  · refine ⟨_, if_neg hconstexpr, hdeclares.imp fun d v hv => ⟨hv.1, hv.2.1, ?_⟩⟩
    rw [hv.2.2, hbase, VariableDeclaration.IsConstant, or_iff_right (mt List.any_eq_true.2 hconstexpr)]

/-- The declarator `x = f(1, 2)`. -/
def sampleAssigned : Declarator where
  marks := []
  name := ⟨.ident, "x", 11⟩
  suffix := [⟨.punct, "=", 13⟩, ⟨.ident, "f", 15⟩, ⟨.punct, "(", 16⟩, ⟨.number, "1", 17⟩, ⟨.punct, ",", 18⟩,
    ⟨.number, "2", 20⟩, ⟨.punct, ")", 21⟩]
  marks_spec := by simp
  name_ident := by decide
  name_not_mem := by decide
  suffix_spec := by
    refine .assigned (by decide) (.plain (by decide) (by decide) ?_)
    exact @Nested.group _ _ .paren _ _ [_, _, _] [] (by decide) (by decide) (by decide) (.of_forall (by decide)) .nil

/-- The declarator `*const p`. -/
def samplePointer : Declarator where
  marks := [⟨.punct, "*", 24⟩, ⟨.ident, "const", 25⟩]
  name := ⟨.ident, "p", 31⟩
  suffix := []
  marks_spec := by simp only [IsPointer]; decide
  name_ident := by decide
  name_not_mem := by decide
  suffix_spec := .nil

/-- The declaration `const A<B> x = f(1, 2), *const p`. -/
def sampleDeclaration : VariableDeclaration where
  specifierWords := [⟨.ident, "const", 0⟩]
  typeTokens := [⟨.ident, "A", 6⟩, ⟨.punct, "<", 7⟩, ⟨.ident, "B", 8⟩, ⟨.punct, ">", 9⟩]
  typeQualifiers := []
  declarators := [sampleAssigned, samplePointer]
  declaratorTokens := sampleAssigned.tokens ++ ⟨.punct, ",", 22⟩ :: samplePointer.tokens
  specifierWords_mem := by decide
  typeTokens_spec := .named (.last (by decide)
    (@TypeArguments.some _ _ [_] (by decide) (by decide) (.of_forall (by decide))))
  typeQualifiers_mem := by simp
  declarators_ne_nil := by simp
  first_marks := by simp [sampleAssigned]
  separated := .cons (by decide) .single
  attributeFree := .of_forall (by decide)

theorem declaredVariables?_sampleDeclaration :
    ∃ vars, declaredVariables? "const A<B> x = f(1, 2), *const p".toList = some vars ∧
      List.Forall₂ (fun d v => v.name = d.name.text ∧ v.offset = d.name.offset ∧
        (v.isConstant = true ↔ sampleDeclaration.IsConstant d)) [sampleAssigned, samplePointer] vars :=
  declaredVariables?_variableDeclaration sampleDeclaration (by decide +kernel)

end Guideline.Declaration
