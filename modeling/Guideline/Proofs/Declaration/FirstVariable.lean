import Guideline.Proofs.Declaration.DeclaratorList
import Guideline.Proofs.Declaration.Named
import Mathlib.Tactic.SplitIfs

/-!
# The first variable of a declaration

A statement starts as a declaration does up to the name of its first variable, whatever ends the declarator
behind that name (`StartsDeclaration.readsUpTo`). Each variable is named by a token of the statement, and
behind the token its declarator ends (`namesVariable_of_variablesOfTokens?`).
-/

namespace Guideline.Declaration

open Source

/-! ### The type -/

/-- Each token ends the template arguments or sets the counters for those behind it. -/
theorem angleEnd_cons (parens depth : Nat) (t : Token) :
    (∀ rest, angleEnd parens depth (t :: rest) = some 1) ∨
      ∃ parens' depth', ∀ rest,
        angleEnd parens depth (t :: rest) = (angleEnd parens' depth' rest).map (· + 1) := by
  simp only [angleEnd]
  split_ifs
  all_goals first
    | exact .inl fun _ => rfl
    | exact .inr ⟨_, _, fun _ => rfl⟩

theorem exists_of_angleEnd {parens depth n : Nat} {tokens : List Token}
    (h : angleEnd parens depth tokens = some n) :
    ∃ pre, tokens = pre ++ tokens.drop n ∧ pre.length = n ∧
      ∀ rest, angleEnd parens depth (pre ++ rest) = some n := by
  induction tokens generalizing parens depth n with
  | nil => cases h
  | cons t more ih =>
    rcases angleEnd_cons parens depth t with hlast | ⟨parens', depth', hnext⟩
    · rw [hlast] at h
      cases h
      exact ⟨[t], rfl, rfl, hlast⟩
    · rw [hnext] at h
      obtain ⟨m, hm, rfl⟩ := Option.map_eq_some_iff.1 h
      obtain ⟨pre, hpre, hlength, hend⟩ := ih hm
      refine ⟨t :: pre, congrArg (t :: ·) hpre, by rw [List.length_cons, hlength], fun rest => ?_⟩
      rw [List.cons_append, hnext, hend rest, Option.map_some]

/-- A reader gives `rest`, and gives any other tokens that start as `rest` does in its place. -/
def ReadsUpTo (read : List Token → Option (List Token)) (tokens rest : List Token) : Prop :=
  ∃ pre, tokens = pre ++ rest ∧ ∀ rest', rest'.head? = rest.head? → read (pre ++ rest') = some rest'

theorem head?_append_congr {rest rest' : List Token} (h : rest'.head? = rest.head?) (pre : List Token) :
    (pre ++ rest').head? = (pre ++ rest).head? := by
  rw [List.head?_append, List.head?_append, h]

theorem afterArguments?_readsUpTo {tokens rest : List Token} (h : afterArguments? tokens = some rest) :
    ReadsUpTo afterArguments? tokens rest := by
  unfold afterArguments? at h
  split at h
  · cases h
    refine ⟨[], rfl, fun rest' hhead => ?_⟩
    obtain rfl := List.head?_eq_none_iff.1 hhead
    rfl
  next t more =>
    split at h
    next hopen =>
      obtain ⟨n, hend, rfl⟩ := Option.map_eq_some_iff.1 h
      obtain ⟨pre, hpre, hlength, hread⟩ := exists_of_angleEnd hend
      refine ⟨t :: pre, congrArg (t :: ·) hpre, fun rest' _ => ?_⟩
      rw [List.cons_append, afterArguments?, if_pos hopen, hread rest', Option.map_some, List.drop_left' hlength]
    next hopen =>
      cases h
      refine ⟨[], rfl, fun rest' hhead => ?_⟩
      obtain ⟨more', rfl⟩ := List.head?_eq_some_iff.1 hhead
      rw [List.nil_append, afterArguments?, if_neg hopen]

theorem readQualifiedType?_readsUpTo {tokens rest : List Token} (h : readQualifiedType? tokens = some rest)
    (hcolon : ∀ t ∈ rest.head?, t.isPunct ':' = false) : ReadsUpTo readQualifiedType? tokens rest := by
  fun_induction readQualifiedType? tokens with
  | case1 => cases h
  | case2 => cases h
  | case3 t more hident after ha _ =>
    cases h
    obtain ⟨pre, rfl, hpre⟩ := afterArguments?_readsUpTo ha
    refine ⟨t :: pre, rfl, fun rest' hhead => ?_⟩
    rw [List.cons_append, readQualifiedType?_cons, if_pos hident, hpre rest' hhead, Option.bind_some,
      afterScope?_eq_none (hhead ▸ hcolon)]
  | case4 t more hident after ha next hs _ _ ih =>
    obtain ⟨pre, rfl, hpre⟩ := afterArguments?_readsUpTo ha
    obtain ⟨c, d, rfl, hc, hd⟩ := afterScope?_eq_some_iff.1 hs
    obtain ⟨pre', rfl, hpre'⟩ := ih h
    refine ⟨t :: (pre ++ c :: d :: pre'), by simp, fun rest' hhead => ?_⟩
    rw [List.cons_append, List.append_assoc, List.cons_append, List.cons_append, readQualifiedType?_cons,
      if_pos hident, hpre (c :: d :: (pre' ++ rest')) rfl, Option.bind_some,
      afterScope?_eq_some_iff.2 ⟨c, d, rfl, hc, hd⟩]
    exact hpre' rest' hhead
  | case5 => cases h

theorem span_congr {p : Token → Bool} {tokens rest' : List Token}
    (hhead : rest'.head? = (tokens.dropWhile p).head?) :
    (tokens.takeWhile p ++ rest').dropWhile p = rest' ∧
      (tokens.takeWhile p ++ rest').takeWhile p = tokens.takeWhile p := by
  refine dropWhile_append_of_head (fun t ht => List.all_eq_true.1 List.all_takeWhile t ht) fun t ht => ?_
  have hnot := List.head?_dropWhile_not p tokens
  rwa [← hhead, Option.mem_def.1 ht] at hnot

theorem readType?_readsUpTo {tokens rest : List Token} (h : readType? tokens = some rest)
    (hcolon : ∀ t ∈ rest.head?, t.isPunct ':' = false) : ReadsUpTo readType? tokens rest := by
  cases tokens with
  | nil => cases h
  | cons t more =>
    rw [readType?] at h
    by_cases hbuiltin : t.isOneOf builtinTypeWords = true
    · rw [if_pos hbuiltin, Option.some_inj] at h
      refine ⟨(t :: more).takeWhile (·.isOneOf builtinTypeWords), ?_, fun rest' hhead => ?_⟩
      · rw [← h, List.takeWhile_append_dropWhile]
      · have hdrop := (span_congr (h.symm ▸ hhead)).1
        simp only [List.takeWhile_cons, hbuiltin, if_true, List.cons_append] at hdrop ⊢
        rw [readType?, if_pos hbuiltin, hdrop]
    · rw [if_neg hbuiltin] at h
      cases hscope : afterScope? (t :: more) with
      | none =>
        rw [hscope, Option.getD_none] at h
        have hident : t.isIdent = true := by
          by_contra hident
          rw [readQualifiedType?_cons, if_neg hident] at h
          cases h
        obtain ⟨pre, hpre, hread⟩ := readQualifiedType?_readsUpTo h hcolon
        refine ⟨pre, hpre, fun rest' hhead => ?_⟩
        have hread := hread rest' hhead
        obtain ⟨more', hmore'⟩ : ∃ more', pre ++ rest' = t :: more' := by
          rw [← List.head?_eq_some_iff, head?_append_congr hhead, ← hpre]
          rfl
        rw [hmore'] at hread ⊢
        rw [readType?, if_neg hbuiltin, afterScope?_eq_none, Option.getD_none, hread]
        intro u hu
        obtain rfl : t = u := by simpa using hu
        exact Token.isPunct_eq_false hident ':'
      | some next =>
        rw [hscope, Option.getD_some] at h
        obtain ⟨c, d, heq, hc, hd⟩ := afterScope?_eq_some_iff.1 hscope
        obtain ⟨rfl, rfl⟩ := List.cons.inj heq
        obtain ⟨pre, rfl, hread⟩ := readQualifiedType?_readsUpTo h hcolon
        refine ⟨t :: d :: pre, rfl, fun rest' hhead => ?_⟩
        rw [List.cons_append, List.cons_append, readType?, if_neg hbuiltin,
          afterScope?_eq_some_iff.2 ⟨t, d, rfl, hc, hd⟩]
        exact hread rest' hhead

/-! ### The declarator -/

theorem readIndirection_readsUpTo (isConst indirect : Bool) (tokens : List Token) :
    ∃ marks, tokens = marks ++ (readIndirection isConst indirect tokens).2.2 ∧
      (∀ t ∈ marks, t.isPunct ':' = false) ∧
      ∀ rest', rest'.head? = (readIndirection isConst indirect tokens).2.2.head? →
        readIndirection isConst indirect (marks ++ rest') =
          ((readIndirection isConst indirect tokens).1, (readIndirection isConst indirect tokens).2.1, rest') := by
  fun_induction readIndirection isConst indirect tokens with
  | case1 isConst indirect =>
    refine ⟨[], rfl, by simp, fun rest' hhead => ?_⟩
    obtain rfl := List.head?_eq_none_iff.1 hhead
    rfl
  | case2 isConst indirect t rest hconst ih =>
    obtain ⟨marks, hmarks, hcolon, hread⟩ := ih
    refine ⟨t :: marks, congrArg (t :: ·) hmarks, ?_, fun rest' hhead => ?_⟩
    · exact List.forall_mem_cons.2 ⟨Token.isPunct_eq_false (Token.isWord_iff.1 hconst).1 ':', hcolon⟩
    · rw [List.cons_append, readIndirection_const isConst indirect hconst, hread rest' hhead]
  | case3 isConst indirect t rest _ hvolatile ih =>
    obtain ⟨marks, hmarks, hcolon, hread⟩ := ih
    refine ⟨t :: marks, congrArg (t :: ·) hmarks, ?_, fun rest' hhead => ?_⟩
    · exact List.forall_mem_cons.2 ⟨Token.isPunct_eq_false (Token.isWord_iff.1 hvolatile).1 ':', hcolon⟩
    · rw [List.cons_append, readIndirection_volatile isConst indirect hvolatile, hread rest' hhead]
  | case4 isConst indirect t rest _ _ hmark ih =>
    have hpointer : IsPointer t := hmark
    obtain ⟨marks, hmarks, hcolon, hread⟩ := ih
    refine ⟨t :: marks, congrArg (t :: ·) hmarks, ?_, fun rest' hhead => ?_⟩
    · exact List.forall_mem_cons.2 ⟨hpointer.isPunct_eq_false (by decide), hcolon⟩
    · rw [List.cons_append, readIndirection_pointer isConst indirect hpointer, hread rest' hhead]
  | case5 isConst indirect t rest hconst hvolatile hmark =>
    refine ⟨[], rfl, by simp, fun rest' hhead => ?_⟩
    obtain ⟨more, rfl⟩ := List.head?_eq_some_iff.1 hhead
    rw [List.nil_append, readIndirection, if_neg hconst, if_neg hvolatile, if_neg hmark]

theorem readDeclarator?_readsUpTo {baseConst : Bool} {tokens rest : List Token} {v : Variable}
    (h : readDeclarator? baseConst tokens = some (v, rest)) :
    ∃ marks name, tokens = marks ++ name :: rest ∧ NamesVariable name rest v ∧
      (∀ t ∈ marks ++ [name], t.isPunct ':' = false) ∧
      ∀ rest', endsDeclarator rest' = true →
        readDeclarator? baseConst (marks ++ name :: rest') = some (v, rest') := by
  obtain ⟨marks, hmarks, hcolon, hread⟩ := readIndirection_readsUpTo baseConst false tokens
  obtain ⟨name, hrest, hname, hconst⟩ := readDeclarator?_eq_some_iff.1 h
  rw [hrest] at hmarks hread
  refine ⟨marks, name, hmarks, hname, ?_, fun rest' hends => ?_⟩
  · intro t ht
    rcases List.mem_append.1 ht with ht | ht
    · exact hcolon t ht
    · rw [List.mem_singleton.1 ht]
      exact Token.isPunct_eq_false hname.isIdent ':'
  · have hread' := hread (name :: rest') rfl
    refine readDeclarator?_eq_some_iff.2 ⟨name, ?_, { hname with ends := hends }, ?_⟩
    · rw [hread']
    · rw [hread', hconst]

/-- The same where `const` and `volatile` are said of the type first. -/
theorem readDeclarator?_dropWhile_readsUpTo {baseConst : Bool} {typed rest : List Token} {v : Variable}
    (h : readDeclarator? baseConst (typed.dropWhile (·.isOneOf ["const", "volatile"])) = some (v, rest)) :
    ∃ a name, typed = a ++ name :: rest ∧ NamesVariable name rest v ∧
      (∀ t ∈ a ++ [name], t.isPunct ':' = false) ∧
      ∀ rest', (a ++ name :: rest').takeWhile (·.isOneOf ["const", "volatile"]) =
          typed.takeWhile (·.isOneOf ["const", "volatile"]) ∧
        (endsDeclarator rest' = true → readDeclarator? baseConst
          ((a ++ name :: rest').dropWhile (·.isOneOf ["const", "volatile"])) = some (v, rest')) := by
  obtain ⟨marks, name, hmarks, hname, hcolon, hread⟩ := readDeclarator?_readsUpTo h
  refine ⟨typed.takeWhile (·.isOneOf ["const", "volatile"]) ++ marks, name, ?_, hname, ?_, fun rest' => ?_⟩
  · rw [List.append_assoc, ← hmarks, List.takeWhile_append_dropWhile]
  · intro t ht
    rw [List.append_assoc] at ht
    rcases List.mem_append.1 ht with ht | ht
    · have hword := List.all_eq_true.1 List.all_takeWhile t ht
      exact Token.isPunct_eq_false (Token.isOneOf_iff.1 hword).1 ':'
    · exact hcolon t ht
  · have hhead : (marks ++ name :: rest').head? =
        (typed.dropWhile (·.isOneOf ["const", "volatile"])).head? := by
      rw [hmarks]
      exact head?_append_congr (by simp) marks
    obtain ⟨hdrop, htake⟩ := span_congr hhead
    rw [List.append_assoc, hdrop, htake]
    exact ⟨rfl, hread rest'⟩

/-! ### The declaration -/

/-- What follows the first name plays no part in its reading. -/
theorem StartsDeclaration.readsUpTo {tokens typed rest : List Token} {v : Variable}
    (h : StartsDeclaration tokens typed v rest) :
    ∃ a name, tokens = a ++ name :: rest ∧ NamesVariable name rest v ∧
      ∀ rest', endsDeclarator rest' = true → ∃ typed', StartsDeclaration (a ++ name :: rest') typed' v rest' := by
  obtain ⟨behind, name, htyped, hname, hcolon, hread⟩ := readDeclarator?_dropWhile_readsUpTo h.declarator
  have hhead : ∀ rest', (behind ++ name :: rest').head? = typed.head? := by
    intro rest'
    rw [htyped]
    exact head?_append_congr (by simp) behind
  have hno : ∀ t ∈ typed.head?, t.isPunct ':' = false := by
    intro t ht
    rw [← hhead []] at ht
    exact hcolon t (List.mem_of_mem_head? ht)
  obtain ⟨pre, hpre, htype⟩ := readType?_readsUpTo h.type hno
  refine ⟨tokens.takeWhile (·.isOneOf variableSpecifiers) ++ (pre ++ behind), name, ?_, hname,
    fun rest' hends => ?_⟩
  · rw [List.append_assoc, List.append_assoc, ← htyped, ← hpre, List.takeWhile_append_dropWhile]
  · have hstart : (pre ++ (behind ++ name :: rest')).head? =
        (tokens.dropWhile (·.isOneOf variableSpecifiers)).head? := by
      rw [hpre]
      exact head?_append_congr (hhead rest') pre
    obtain ⟨hdrop, htake⟩ := span_congr hstart
    obtain ⟨hquals, hread⟩ := hread rest'
    rw [List.append_assoc, List.append_assoc]
    refine ⟨behind ++ name :: rest', ?_, ?_, ?_, ?_⟩
    · rw [head?_append_congr hstart, List.takeWhile_append_dropWhile]
      exact h.first
    · rw [hdrop, hstart]
      exact h.no_literal
    · rw [hdrop]
      exact htype _ (hhead rest')
    · rw [baseConst, htake, hquals]
      exact hread hends

theorem namesVariable_of_mem_moreDeclarators {baseConst : Bool} {tokens : List Token} {v : Variable}
    (h : v ∈ moreDeclarators baseConst tokens) :
    ∃ name rest, name :: rest <:+ tokens ∧ NamesVariable name rest v := by
  fun_induction moreDeclarators baseConst tokens with
  | case1 => cases h
  | case2 => cases h
  | case3 tokens start hstart w rest hread _ _ ih =>
    obtain ⟨marks, name, hmarks, hname, -⟩ := readDeclarator?_readsUpTo hread
    have hsuffix : name :: rest <:+ tokens :=
      (hmarks ▸ List.suffix_append marks _ : name :: rest <:+ start).trans (nextDeclarator?_suffix hstart)
    rcases List.mem_cons.1 h with rfl | h
    · exact ⟨name, rest, hsuffix, hname⟩
    · obtain ⟨name', rest', hsuffix', hname'⟩ := ih h
      exact ⟨name', rest', hsuffix'.trans ((List.suffix_cons name rest).trans hsuffix), hname'⟩

theorem namesVariable_of_variablesOfTokens? {tokens : List Token} {vs : List Variable}
    (h : variablesOfTokens? tokens = some vs) :
    ∀ v ∈ vs, ∃ name rest, name :: rest <:+ tokens ∧ NamesVariable name rest v := by
  obtain ⟨typed, first, rest, hstart⟩ := exists_startsDeclaration h
  have hfound : ∀ v ∈ first :: moreDeclarators (baseConst tokens typed) rest,
      ∃ name rest, name :: rest <:+ tokens ∧ NamesVariable name rest v := by
    obtain ⟨a, name, htokens, hname, -⟩ := hstart.readsUpTo
    have hsuffix : name :: rest <:+ tokens := htokens ▸ List.suffix_append a _
    intro v hv
    rcases List.mem_cons.1 hv with rfl | hv
    · exact ⟨name, rest, hsuffix, hname⟩
    · obtain ⟨name', rest', hsuffix', hname'⟩ := namesVariable_of_mem_moreDeclarators hv
      exact ⟨name', rest', hsuffix'.trans ((List.suffix_cons name rest).trans hsuffix), hname'⟩
  rw [hstart.variablesOfTokens?_eq] at h
  split at h
  · cases h
    intro v hv
    obtain ⟨w, hw, rfl⟩ := List.mem_map.1 hv
    obtain ⟨name, rest, hsuffix, hname⟩ := hfound w hw
    exact ⟨name, rest, hsuffix, { hname with }⟩
  · cases h
    exact hfound

end Guideline.Declaration
