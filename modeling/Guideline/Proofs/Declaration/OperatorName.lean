import Guideline.Proofs.Declaration.Named
import Guideline.Proofs.Declaration.Overlap
import Mathlib.Data.List.Nodup

/-!
# Which functions are operators

A function head is searched for the word `operator` first, but whether the function is an operator is told
by how its name begins. So besides the operators all functions count whose name is a longer word that begins
with `operator`, and their names are not checked (`signature?_operator_iff`).
-/

namespace Guideline.Declaration

open Source Check

theorem not_isWord_of_splitAtOperator {before tokens : List Token}
    (h : splitAtOperator before tokens = none) : ∀ t ∈ tokens, t.isWord "operator" = false := by
  induction tokens generalizing before with
  | nil => simp
  | cons t rest ih =>
    rw [splitAtOperator] at h
    split at h
    next => cases h
    next hword =>
      intro u hu
      rcases List.mem_cons.1 hu with rfl | hu
      · simpa using hword
      · exact ih h u hu

/-- The name of a function stands at the word `operator` if there is one, and else is the word it stands at. -/
theorem NamedHead.exists_word {tokens : List Token} {head : NamedHead} (h : NamedHead.find? tokens = some head) :
    ∃ t ∈ tokens, t.isIdent = true ∧ t.offset = head.offset ∧
      (t.text = "operator" ∧ "operator".toList <+: head.name.toList ∨
        (∀ u ∈ tokens, u.isWord "operator" = false) ∧ head.name = t.text) := by
  unfold NamedHead.find? at h
  split at h
  next before word rest hsplit =>
    obtain ⟨⟨name, afterParen⟩, hname, rfl⟩ := Option.map_eq_some_iff.1 h
    obtain ⟨mid, rfl, hword, -⟩ := splitAtOperator_eq_some hsplit
    obtain ⟨hident, htext⟩ := Token.isWord_iff.1 hword
    have hbegins := Text.startsWith_iff.1 (operatorName?_startsWith hname)
    exact ⟨word, by simp, hident, rfl, .inl ⟨htext, hbegins⟩⟩
  next hnone =>
    have hno := not_isWord_of_splitAtOperator hnone
    split at h
    next name before afterParen hsplit =>
      split at h
      next hident =>
        cases h
        exact ⟨name, splitAtParen_subset hsplit (by simp), hident, rfl, .inr ⟨hno, rfl⟩⟩
      next => cases h
    next => cases h

theorem NamedHead.kind?_eq_operator_iff {head : NamedHead} {className : Option String} {kind : FunctionKind}
    (h : head.kind? className = some kind) : kind = .operator ↔ "operator".toList <+: head.name.toList := by
  rw [← Text.startsWith_iff]
  unfold NamedHead.kind? at h
  split at h
  next hstarts =>
    cases h
    exact iff_of_true rfl hstarts
  next hstarts =>
    have hne : kind ≠ .operator := by
      rintro rfl
      split at h
      · cases h
      · split at h
        · cases h
        · split at h <;> cases h
    exact iff_of_false hne hstarts

/-- A signature takes its name, offset and kind from the head. -/
theorem exists_namedHead_of_ofTokens? {tokens : List Token} {className : Option String} {sig : Signature}
    (h : Signature.ofTokens? tokens className = some sig) :
    ∃ head, NamedHead.find? tokens = some head ∧ head.kind? className = some sig.kind ∧
      head.name = sig.name ∧ head.offset = sig.offset := by
  simp only [Signature.ofTokens?, Option.bind_eq_bind, Option.bind_eq_some_iff] at h
  obtain ⟨head, hhead, close, -, params, -, kind, hkind, h⟩ := h
  split at h
  next =>
    cases h
    exact ⟨head, hhead, hkind, rfl, rfl⟩
  next => cases h

theorem exists_word_of_ofTokens? {tokens : List Token} {className : Option String} {sig : Signature}
    (h : Signature.ofTokens? tokens className = some sig) :
    ∃ t ∈ tokens, t.isIdent = true ∧ t.offset = sig.offset ∧
      (sig.kind = .operator ↔ "operator".toList <+: t.text.toList) ∧
      (t.text = "operator" ↔ ∃ u ∈ tokens, u.isWord "operator" = true) ∧
      (sig.kind ≠ .operator → sig.name = t.text) := by
  obtain ⟨head, hfind, hkind, hname, hoffset⟩ := exists_namedHead_of_ofTokens? h
  have hoperator := NamedHead.kind?_eq_operator_iff hkind
  obtain ⟨t, ht, hident, ht', ⟨htext, hbegins⟩ | ⟨hno, htext⟩⟩ := NamedHead.exists_word hfind
  · have hself : "operator".toList <+: t.text.toList := by simp [htext]
    refine ⟨t, ht, hident, ht'.trans hoffset, ?_, ?_, fun hne => absurd (hoperator.2 hbegins) hne⟩
    · exact iff_of_true (hoperator.2 hbegins) hself
    · exact iff_of_true htext ⟨t, ht, Token.isWord_iff.2 ⟨hident, htext⟩⟩
  · refine ⟨t, ht, hident, ht'.trans hoffset, ?_, ?_, fun _ => hname.symm.trans htext⟩
    · rw [hoperator, htext]
    · refine iff_of_false (fun heq => ?_) ?_
      · have hword := hno t ht
        rw [Token.isWord_iff.2 ⟨hident, heq⟩] at hword
        cases hword
      · rintro ⟨u, hu, hword⟩
        rw [hno u hu] at hword
        cases hword

theorem eq_of_mem_tokenize {text : List Char} {t u : Token} (ht : t ∈ tokenize text) (hu : u ∈ tokenize text)
    (h : u.offset = t.offset) : u = t := by
  have hnodup : ((tokenize text).map Token.offset).Nodup :=
    List.pairwise_map.2 ((pairwise_tokenizeFrom 0 text).imp Nat.ne_of_lt)
  exact List.inj_on_of_nodup_map hnodup hu ht h

/-- The name of a function is checked if it has a return type and is not `main`. -/
theorem functionName?_eq_some_iff {s : Statement} {sig : Signature} (h : function? s = some sig)
    {name : LocatedName} : functionName? s = some name ↔
      sig.kind = .regular ∧ sig.name ≠ "main" ∧ ⟨sig.name, sig.offset⟩ = name := by
  rw [functionName?, h, Option.bind_some, Option.ite_none_right_eq_some]
  simp only [Bool.and_eq_true, decide_eq_true_eq, Option.some.injEq, and_assoc]

/-- A function is read as an operator just if the word at its name begins with `operator`, and the word is
`operator` itself just if that is a word of the statement. A function with a return type goes unchecked if its
word begins so. -/
theorem signature?_operator_iff {text : List Char} {className : Option String} {sig : Signature}
    (h : signature? text className = some sig) :
    ∃ t ∈ tokenize text, t.isIdent = true ∧ t.offset = sig.offset ∧
      (∀ u ∈ tokenize text, u.offset = sig.offset → u = t) ∧
      (sig.kind = .operator ↔ "operator".toList <+: t.text.toList) ∧
      (t.text = "operator" ↔ ∃ u ∈ declaringTokens text, u.isWord "operator" = true) ∧
      ∀ s : Statement, s.text = text → function? s = some sig →
        (functionName? s = some t.located ↔ ¬ "operator".toList <+: t.text.toList ∧
          sig.kind ≠ .constructor ∧ sig.kind ≠ .destructor ∧ t.text ≠ "main") := by
  obtain ⟨t, ht, hident, hoffset, hoperator, hword, hname⟩ := exists_word_of_ofTokens? h
  have hmem := (declaringTokens_sublist text).subset ht
  refine ⟨t, hmem, hident, hoffset, fun u hu hu' => eq_of_mem_tokenize hmem hu (hu'.trans hoffset.symm),
    hoperator, hword, fun s _ hs => ?_⟩
  rw [functionName?_eq_some_iff hs, ← hoperator, Token.located, hoffset]
  constructor
  · rintro ⟨hkind, hmain, -⟩
    rw [← hname (by simp [hkind]), hkind]
    exact ⟨by simp, by simp, by simp, hmain⟩
  · rintro ⟨hne, hconstructor, hdestructor, hmain⟩
    rw [hname hne]
    refine ⟨?_, hmain, rfl⟩
    cases hkind : sig.kind with
    | regular => rfl
    | constructor => exact absurd hkind hconstructor
    | destructor => exact absurd hkind hdestructor
    | operator => exact absurd hkind hne

/-- A function that returns something and is no operator. -/
def operatorTable : List Char :=
  "void operatorTable(int x)".toList

theorem signature?_eq_operator : signature? operatorTable none =
    some ⟨"operatorTable", 5, .operator, [⟨["int", "x"], false, false⟩], false, false, false⟩ := by
  decide +kernel

theorem mem_tokenize_operatorTable : (⟨.ident, "operatorTable", 5⟩ : Token) ∈ tokenize operatorTable := by
  decide +kernel

theorem signature?_operatorTable : ∃ sig, signature? operatorTable none = some sig ∧ sig.kind = .operator ∧
    ∃ t ∈ tokenize operatorTable, t.offset = sig.offset ∧ t.text = "operatorTable" := by
  obtain ⟨t, ht, -, hoffset, honly, hoperator, -⟩ := signature?_operator_iff signature?_eq_operator
  obtain rfl := honly _ mem_tokenize_operatorTable rfl
  exact ⟨_, signature?_eq_operator, hoperator.2 (by decide), _, ht, hoffset, rfl⟩

/-- Not every function that is read as an operator has `operator` at its name. -/
theorem not_forall_operator_isWord : ¬ ∀ text className sig, signature? text className = some sig →
    sig.kind = .operator → ∀ t ∈ tokenize text, t.offset = sig.offset → t.isWord "operator" = true := by
  intro hall
  have hword := hall _ _ _ signature?_eq_operator rfl _ mem_tokenize_operatorTable rfl
  exact absurd hword (by decide)

end Guideline.Declaration
