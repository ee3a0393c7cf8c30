import Guideline.Declaration.Attribute
import Mathlib.Data.List.Chain

/-!
# Nested brackets

Grammars of declarations speak of tokens whose brackets are properly nested (`Nested`). The readers
count open brackets instead; here it is shown that passing over nested tokens leaves their counts as
they were. Tokens without attribute groups and template heads are read as they stand
(`declaringTokens_eq`).
-/

namespace Guideline.Source

/-! ### Kinds of tokens -/

namespace Token

variable {t : Token} {c : Char}

theorem isPunct_iff : t.isPunct c = true ↔ t.kind = .punct ∧ t.text = String.singleton c := by
  simp [isPunct]

theorem isPunct_eq (h : t.isPunct c = true) (d : Char) : t.isPunct d = decide (c = d) := by
  obtain ⟨hkind, htext⟩ := isPunct_iff.1 h
  rw [Bool.eq_iff_iff, isPunct_iff, decide_eq_true_eq, hkind, htext, String.singleton_inj]
  exact and_iff_right rfl

theorem isIdent_eq_false (h : t.isPunct c = true) : t.isIdent = false := by
  rw [isIdent, (isPunct_iff.1 h).1]
  rfl

theorem isPunct_eq_false (h : t.isIdent = true) (c : Char) : t.isPunct c = false := by
  rw [← Bool.not_eq_true]
  intro hpunct
  rw [isIdent_eq_false hpunct] at h
  cases h

theorem isWord_eq_false (h : t.isPunct c = true) (word : String) : t.isWord word = false := by
  rw [isWord, (isPunct_iff.1 h).1]
  rfl

theorem isOneOf_eq_false (h : t.isPunct c = true) (words : List String) : t.isOneOf words = false := by
  rw [isOneOf, (isPunct_iff.1 h).1]
  rfl

theorem isOneOf_iff {words : List String} :
    t.isOneOf words = true ↔ t.isIdent = true ∧ t.text ∈ words := by
  simp [isOneOf, isIdent]

theorem isWord_iff {word : String} : t.isWord word = true ↔ t.isIdent = true ∧ t.text = word := by
  simp [isWord, isIdent]

theorem isPunctIn_iff {cs : List Char} : t.isPunctIn cs = true ↔ ∃ d ∈ cs, t.isPunct d = true := by
  simp [isPunctIn]

theorem isPunctIn_eq (h : t.isPunct c = true) (cs : List Char) : t.isPunctIn cs = decide (c ∈ cs) := by
  rw [Bool.eq_iff_iff, isPunctIn_iff, decide_eq_true_eq]
  simp [isPunct_eq h]

theorem isPunctIn_eq_false (h : t.isIdent = true) (cs : List Char) : t.isPunctIn cs = false := by
  simp [isPunctIn, isPunct_eq_false h]

end Token

/-! ### Nesting -/

inductive Bracket where
  | paren
  | angle
  | square
  | brace
deriving DecidableEq, Repr

namespace Bracket

def opening : Bracket → Char
  | .paren => '('
  | .angle => '<'
  | .square => '['
  | .brace => '{'

def closing : Bracket → Char
  | .paren => ')'
  | .angle => '>'
  | .square => ']'
  | .brace => '}'

/-- A bracket of one kind is none of another kind. -/
theorem isPunct_eq_false_of_ne {b b' : Bracket} (hne : b ≠ b') {t : Token}
    (h : t.isPunct b.opening = true ∨ t.isPunct b.closing = true) :
    t.isPunct b'.opening = false ∧ t.isPunct b'.closing = false := by
  have hchars : (b.opening ≠ b'.opening ∧ b.opening ≠ b'.closing) ∧
      b.closing ≠ b'.opening ∧ b.closing ≠ b'.closing := by
    revert hne
    cases b <;> cases b' <;> decide
  rcases h with h | h
  · simp [Token.isPunct_eq h, hchars.1]
  · simp [Token.isPunct_eq h, hchars.2]

variable {kinds : List Bracket} {t : Token}

theorem isPunctIn_of_plain (h : ∀ b ∈ kinds, t.isPunct b.opening = false ∧ t.isPunct b.closing = false) :
    t.isPunctIn (kinds.map opening) = false ∧ t.isPunctIn (kinds.map closing) = false := by
  simp only [Token.isPunctIn, List.any_map, List.any_eq_false, Bool.not_eq_true, Function.comp_apply]
  exact ⟨fun b hb => (h b hb).1, fun b hb => (h b hb).2⟩

theorem isPunctIn_opening {b : Bracket} (hb : b ∈ kinds) (h : t.isPunct b.opening = true) :
    t.isPunctIn (kinds.map opening) = true :=
  Token.isPunctIn_iff.2 ⟨b.opening, List.mem_map_of_mem hb, h⟩

theorem isPunctIn_closing {b : Bracket} (hb : b ∈ kinds) (h : t.isPunct b.closing = true) :
    t.isPunctIn (kinds.map opening) = false ∧ t.isPunctIn (kinds.map closing) = true := by
  refine ⟨?_, Token.isPunctIn_iff.2 ⟨b.closing, List.mem_map_of_mem hb, h⟩⟩
  rw [Token.isPunctIn_eq h, decide_eq_false_iff_not, List.mem_map]
  rintro ⟨b', -, heq⟩
  revert heq
  cases b <;> cases b' <;> decide

end Bracket

/-- Tokens in which the brackets of the given kinds are properly nested; what stands outside of all
of them satisfies the predicate. -/
inductive Nested (kinds : List Bracket) : (outside : Token → Prop) → List Token → Prop where
  | nil {outside : Token → Prop} : Nested kinds outside []
  | plain {outside : Token → Prop} {t : Token} {ts : List Token} :
    (∀ b ∈ kinds, t.isPunct b.opening = false ∧ t.isPunct b.closing = false) → outside t →
    Nested kinds outside ts → Nested kinds outside (t :: ts)
  | group {outside : Token → Prop} {b : Bracket} {o c : Token} {inner ts : List Token} :
    b ∈ kinds → o.isPunct b.opening = true → c.isPunct b.closing = true →
    Nested kinds (fun _ => True) inner → Nested kinds outside ts →
    Nested kinds outside (o :: (inner ++ c :: ts))

/-! ### Matching brackets -/

section Matching

variable {t : Token} {rest : List Token}

theorem parenEnd_plain (hopen : t.isPunct '(' = false) (hclose : t.isPunct ')' = false) (depth : Nat) :
    parenEnd depth (t :: rest) = (parenEnd depth rest).map (· + 1) := by
  simp [parenEnd, hopen, hclose]

theorem parenEnd_opening (h : t.isPunct '(' = true) (depth : Nat) :
    parenEnd depth (t :: rest) = (parenEnd (depth + 1) rest).map (· + 1) := by
  simp [parenEnd, h]

theorem parenEnd_closing (h : t.isPunct ')' = true) {depth : Nat} (hdepth : 0 < depth) :
    parenEnd (depth + 1) (t :: rest) = (parenEnd depth rest).map (· + 1) := by
  have hle : ¬ depth + 1 ≤ 1 := by omega
  simp [parenEnd, Token.isPunct_eq h, hle]

theorem parenEnd_last (h : t.isPunct ')' = true) : parenEnd 1 (t :: rest) = some 1 := by
  simp [parenEnd, Token.isPunct_eq h]

theorem angleEnd_other (hparen : t.isPunct '(' = false ∧ t.isPunct ')' = false) {parens : Nat}
    (hangle : 0 < parens ∨ t.isPunct '<' = false ∧ t.isPunct '>' = false) (depth : Nat) :
    angleEnd parens depth (t :: rest) = (angleEnd parens depth rest).map (· + 1) := by
  rcases hangle with hparens | hangle
  · have hne : parens ≠ 0 := by omega
    simp [angleEnd, hparen, hne]
  · simp [angleEnd, hparen, hangle]

theorem angleEnd_openParen (h : t.isPunct '(' = true) (parens depth : Nat) :
    angleEnd parens depth (t :: rest) = (angleEnd (parens + 1) depth rest).map (· + 1) := by
  simp [angleEnd, h]

theorem angleEnd_closeParen (h : t.isPunct ')' = true) (parens depth : Nat) :
    angleEnd (parens + 1) depth (t :: rest) = (angleEnd parens depth rest).map (· + 1) := by
  simp [angleEnd, Token.isPunct_eq h]

theorem angleEnd_opening (h : t.isPunct '<' = true) (depth : Nat) :
    angleEnd 0 depth (t :: rest) = (angleEnd 0 (depth + 1) rest).map (· + 1) := by
  simp [angleEnd, Token.isPunct_eq h]

theorem angleEnd_closing (h : t.isPunct '>' = true) {depth : Nat} (hdepth : 0 < depth) :
    angleEnd 0 (depth + 1) (t :: rest) = (angleEnd 0 depth rest).map (· + 1) := by
  have hle : ¬ depth + 1 ≤ 1 := by omega
  simp [angleEnd, Token.isPunct_eq h, hle]

theorem angleEnd_last (h : t.isPunct '>' = true) : angleEnd 0 1 (t :: rest) = some 1 := by
  simp [angleEnd, Token.isPunct_eq h]

end Matching

namespace Nested

variable {kinds : List Bracket} {outside : Token → Prop} {ts : List Token}

theorem of_forall (h : ∀ t ∈ ts, outside t ∧
    ∀ b ∈ kinds, t.isPunct b.opening = false ∧ t.isPunct b.closing = false) : Nested kinds outside ts := by
  induction ts with
  | nil => exact .nil
  | cons t rest ih =>
    obtain ⟨hout, hplain⟩ := h t (by simp)
    exact .plain hplain hout (ih fun u hu => h u (by simp [hu]))

theorem mono (h : Nested kinds outside ts) {outside' : Token → Prop} (himp : ∀ t, outside t → outside' t) :
    Nested kinds outside' ts := by
  induction h with
  | nil => exact .nil
  | plain hplain hout _ ih => exact .plain hplain (himp _ hout) (ih himp)
  | group hb ho hc hinner _ _ ih => exact .group hb ho hc hinner (ih himp)

theorem append (h : Nested kinds outside ts) {ts' : List Token} (h' : Nested kinds outside ts') :
    Nested kinds outside (ts ++ ts') := by
  induction h with
  | nil => exact h'
  | plain hplain hout _ ih => exact .plain hplain hout (ih h')
  | group hb ho hc hinner _ _ ih =>
    rw [List.cons_append, List.append_assoc, List.cons_append]
    exact .group hb ho hc hinner (ih h')

theorem map_add_length_group (count : Option Nat) (o c : Token) (inner ts : List Token) :
    (((count.map (· + ts.length)).map (· + 1)).map (· + inner.length)).map (· + 1) =
      count.map (· + (o :: (inner ++ c :: ts)).length) := by
  cases count with
  | none => rfl
  | some n =>
    simp only [Option.map_some, List.length_cons, List.length_append, Option.some_inj]
    omega

/-- Nested tokens do not close a parenthesis around them. -/
theorem parenEnd_append (h : Nested kinds outside ts) (hparen : .paren ∈ kinds) {depth : Nat}
    (hdepth : 0 < depth) (rest : List Token) :
    parenEnd depth (ts ++ rest) = (parenEnd depth rest).map (· + ts.length) := by
  induction h generalizing depth rest with
  | nil => simp
  | plain hplain _ _ ih =>
    obtain ⟨hopen, hclose⟩ := hplain .paren hparen
    rw [List.cons_append, parenEnd_plain hopen hclose, ih hdepth, Option.map_map]
    rfl
  | @group _ b o c inner ts _ ho hc _ _ ihInner ih =>
    have hgroup : parenEnd depth (o :: (inner ++ c :: (ts ++ rest))) =
        (((parenEnd depth (ts ++ rest)).map (· + 1)).map (· + inner.length)).map (· + 1) := by
      by_cases hb : b = .paren
      · subst hb
        rw [parenEnd_opening ho, ihInner (Nat.succ_pos depth), parenEnd_closing hc hdepth]
      · have ho' := Bracket.isPunct_eq_false_of_ne hb (.inl ho)
        have hc' := Bracket.isPunct_eq_false_of_ne hb (.inr hc)
        rw [parenEnd_plain ho'.1 ho'.2, ihInner hdepth, parenEnd_plain hc'.1 hc'.2]
    rw [List.cons_append, List.append_assoc, List.cons_append, hgroup, ih hdepth,
      map_add_length_group]

/-- Nested tokens do not close template arguments around them. -/
theorem angleEnd_append (h : Nested kinds outside ts) (hparen : .paren ∈ kinds) (hangle : .angle ∈ kinds)
    (parens : Nat) {depth : Nat} (hdepth : 0 < depth) (rest : List Token) :
    angleEnd parens depth (ts ++ rest) = (angleEnd parens depth rest).map (· + ts.length) := by
  induction h generalizing parens depth rest with
  | nil => simp
  | plain hplain _ _ ih =>
    rw [List.cons_append, angleEnd_other (hplain .paren hparen) (.inr (hplain .angle hangle)),
      ih parens hdepth, Option.map_map]
    rfl
  | @group _ b o c inner ts _ ho hc _ _ ihInner ih =>
    have hgroup : angleEnd parens depth (o :: (inner ++ c :: (ts ++ rest))) =
        (((angleEnd parens depth (ts ++ rest)).map (· + 1)).map (· + inner.length)).map (· + 1) := by
      by_cases hb : b = .paren
      · subst hb
        rw [angleEnd_openParen ho, ihInner _ hdepth, angleEnd_closeParen hc]
      · have ho' := Bracket.isPunct_eq_false_of_ne hb (.inl ho)
        have hc' := Bracket.isPunct_eq_false_of_ne hb (.inr hc)
        by_cases hcounts : parens = 0 ∧ b = .angle
        · obtain ⟨rfl, rfl⟩ := hcounts
          rw [angleEnd_opening ho, ihInner 0 (Nat.succ_pos depth), angleEnd_closing hc hdepth]
        · have hskip : ∀ t : Token, t.isPunct b.opening = true ∨ t.isPunct b.closing = true →
              0 < parens ∨ t.isPunct '<' = false ∧ t.isPunct '>' = false := by
            intro t ht
            rcases Nat.eq_zero_or_pos parens with rfl | hpos
            · have hne : b ≠ .angle := fun h => hcounts ⟨rfl, h⟩
              exact .inr (Bracket.isPunct_eq_false_of_ne hne ht)
            · exact .inl hpos
          rw [angleEnd_other ho' (hskip o (.inl ho)), ihInner parens hdepth,
            angleEnd_other hc' (hskip c (.inr hc))]
    rw [List.cons_append, List.append_assoc, List.cons_append, hgroup, ih parens hdepth,
      map_add_length_group]

end Nested

end Guideline.Source

namespace Guideline.Declaration

open Source

/-! ### Attributes and template heads -/

/-- No attribute group starts in the tokens. -/
def AttributeFree (tokens : List Token) : Prop :=
  tokens.IsChain fun t u => ¬ (t.isPunct '[' = true ∧ u.isPunct '[' = true)

namespace AttributeFree

variable {a b tokens : List Token}

theorem of_forall (h : ∀ t ∈ tokens, t.isPunct '[' = false) : AttributeFree tokens := by
  unfold AttributeFree
  induction tokens with
  | nil => exact .nil
  | cons t rest ih =>
    rw [List.isChain_cons]
    refine ⟨fun u _ hboth => ?_, ih fun u hu => h u (by simp [hu])⟩
    rw [h t (by simp)] at hboth
    cases hboth.1

theorem append_cons (ha : AttributeFree a) {t : Token} (ht : t.isPunct '[' = false)
    (hb : AttributeFree b) : AttributeFree (a ++ t :: b) := by
  refine List.isChain_append.2 ⟨ha, List.isChain_cons.2 ⟨fun u _ hboth => ?_, hb⟩, fun x _ y hy hboth => ?_⟩
  · rw [ht] at hboth
    cases hboth.1
  · obtain rfl : t = y := by simpa using hy
    rw [ht] at hboth
    cases hboth.2

theorem dropAttributes_eq (h : AttributeFree tokens) : dropAttributes 0 tokens = tokens := by
  induction tokens with
  | nil => rfl
  | cons t rest ih =>
    obtain ⟨hfirst, hrest⟩ := List.isChain_cons.1 h
    have hno : ¬ (t.isPunct '[' && rest.head?.any (·.isPunct '[')) = true := by
      rw [Bool.and_eq_true, Option.any_eq_true]
      rintro ⟨ht, u, hu, hu'⟩
      exact hfirst u hu ⟨ht, hu'⟩
    rw [dropAttributes, if_neg hno, ih hrest]

end AttributeFree

theorem skipTemplate_eq_self {tokens : List Token}
    (h : ∀ t ∈ tokens.head?, t.isWord "template" = false) : skipTemplate tokens = tokens := by
  match tokens with
  | [] => rw [skipTemplate]; simp
  | [t] => rw [skipTemplate]; simp
  | t :: u :: rest => rw [skipTemplate, h t rfl]; simp

/-- Where there is nothing to drop, a statement is read as it stands. -/
theorem declaringTokens_eq {text : List Char}
    (htemplate : ∀ t ∈ (tokenize text).head?, t.isWord "template" = false)
    (hfree : AttributeFree (tokenize text)) : declaringTokens text = tokenize text := by
  rw [declaringTokens, skipTemplate_eq_self htemplate, hfree.dropAttributes_eq]

/-! ### Lists -/

/-- The pieces, separated by commas, make up the tokens. -/
inductive CommaSeparated : (pieces : List (List Token)) → List Token → Prop where
  | nil : CommaSeparated [] []
  | single {piece : List Token} : CommaSeparated [piece] piece
  | cons {piece next : List Token} {pieces : List (List Token)} {comma : Token} {tokens : List Token} :
    comma.isPunct ',' = true → CommaSeparated (next :: pieces) tokens →
    CommaSeparated (piece :: next :: pieces) (piece ++ comma :: tokens)

/-- What holds of the pieces and carries over commas holds of the whole. -/
theorem CommaSeparated.whole {P : List Token → Prop} {pieces : List (List Token)} {tokens : List Token}
    (h : CommaSeparated pieces tokens) (hnil : P []) (hpieces : ∀ piece ∈ pieces, P piece)
    (hcomma : ∀ {piece comma rest}, P piece → comma.isPunct ',' = true → P rest → P (piece ++ comma :: rest)) :
    P tokens := by
  induction h with
  | nil => exact hnil
  | single => exact hpieces _ (by simp)
  | cons hc _ ih => exact hcomma (hpieces _ (by simp)) hc (ih fun piece hp => hpieces piece (by simp_all))

end Guideline.Declaration
