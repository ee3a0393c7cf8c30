import Guideline.Proofs.Source.TokenPlace

/-!
# What tokens take of a text

Tokens and the white space between them make up the whole text. `TokenKind.Takes` says which characters a
token of each kind takes, `Tokenized` how tokens follow each other in a text, and everything about their
places is read off that: the tokens are slices of the text in order, no two share a character, and what no
token holds is white space (`tokenize_slices_text`).
-/

namespace Guideline

namespace Text

theorem byteLength_pos {cs : List Char} (h : cs ≠ []) : 0 < byteLength cs := by
  obtain ⟨c, cs, rfl⟩ := List.exists_cons_of_ne_nil h
  exact Nat.add_pos_left (Char.utf8Size_pos c) _

/-- A place in a text is given by the number of bytes before it. -/
theorem append_inj_of_byteLength {a b a' b' : List Char} (h : a ++ b = a' ++ b')
    (hlength : byteLength a = byteLength a') : a = a' ∧ b = b' := by
  have hsplit : ∀ {x y m : List Char}, y = x ++ m → byteLength x = byteLength y → m = [] := by
    rintro x y m rfl hxy
    by_contra hm
    have := byteLength_pos hm
    rw [byteLength_append] at hxy
    omega
  rcases List.append_eq_append_iff.1 h with ⟨m, ha, hb⟩ | ⟨m, ha, hb⟩
  · obtain rfl := hsplit ha hlength
    simp_all
  · obtain rfl := hsplit ha hlength.symm
    simp_all

end Text

namespace Source

namespace Token

/-- The byte offset behind the last character. -/
def stop (t : Token) : Nat :=
  t.offset + Text.byteLength t.text.toList

/-- The character `c` at a byte offset of the text is one of the token's. -/
def Holds (t : Token) (offset : Nat) (c : Char) : Prop :=
  t.offset ≤ offset ∧ offset + c.utf8Size ≤ t.stop

end Token

def IsQuote (c : Char) : Prop :=
  c = '"' ∨ c = '\''

/-- A token of the kind takes the characters `word` in front of `after`. -/
inductive TokenKind.Takes : TokenKind → List Char → List Char → Prop
  | number {c : Char} {run after : List Char} (first : c.isDigit = true)
      (more : ∀ x ∈ run, isNumberChar x = true) (ends : ∀ y ∈ after.head?, isNumberChar y = false) :
      Takes .number (c :: run) after
  | ident {c : Char} {run after : List Char} (first : isIdentChar c = true) (noDigit : c.isDigit = false)
      (more : ∀ x ∈ run, isIdentChar x = true) (ends : ∀ y ∈ after.head?, isIdentChar y = false) :
      Takes .ident (c :: run) after
  /-- A literal goes on to the next equal quote. -/
  | closed {quote : Char} {body after : List Char} (first : IsQuote quote) (inside : quote ∉ body) :
      Takes .literal (quote :: (body ++ [quote])) after
  /-- Without such a quote it takes the rest of the text. -/
  | unclosed {quote : Char} {body : List Char} (first : IsQuote quote) (inside : quote ∉ body) :
      Takes .literal (quote :: body) []
  | punct {c : Char} {after : List Char} (solid : Text.isBlank c = false) (noWord : isIdentChar c = false)
      (noQuote : ¬ IsQuote c) : Takes .punct [c] after

theorem TokenKind.Takes.ne_nil {kind : TokenKind} {word after : List Char} (h : kind.Takes word after) :
    word ≠ [] := by
  cases h <;> simp

theorem TokenKind.Takes.of_ident {word after : List Char} (h : TokenKind.ident.Takes word after) :
    (∃ x ∈ word.head?, isIdentChar x = true) ∧ ∀ y ∈ after.head?, isIdentChar y = false := by
  cases h with
  | ident first _ _ ends => exact ⟨⟨_, rfl, first⟩, ends⟩

theorem TokenKind.Takes.of_literal {word after : List Char} (h : TokenKind.literal.Takes word after) :
    ∃ quote body, IsQuote quote ∧ quote ∉ body ∧
      (word = quote :: (body ++ [quote]) ∨ word = quote :: body ∧ after = []) := by
  cases h with
  | closed first inside => exact ⟨_, _, first, inside, .inl rfl⟩
  | unclosed first inside => exact ⟨_, _, first, inside, .inr ⟨rfl, rfl⟩⟩

theorem TokenKind.Takes.of_punct {word after : List Char} (h : TokenKind.punct.Takes word after) :
    word.length = 1 := by
  cases h
  rfl

theorem splitAfter_of_mem {quote : Char} {body : List Char} (h : quote ∉ body) (after : List Char) :
    splitAfter quote (body ++ quote :: after) = (body ++ [quote], after) := by
  induction body with
  | nil => simp [splitAfter]
  | cons c body ih =>
    rw [List.mem_cons, not_or] at h
    obtain ⟨hc, hbody⟩ := h
    rw [List.cons_append, splitAfter, if_neg (Ne.symm hc), ih hbody]
    rfl

theorem splitAfter_of_notMem {quote : Char} {l : List Char} (h : quote ∉ l) :
    splitAfter quote l = (l, []) := by
  induction l with
  | nil => rfl
  | cons c l ih =>
    rw [List.mem_cons, not_or] at h
    obtain ⟨hc, hl⟩ := h
    rw [splitAfter, if_neg (Ne.symm hc), ih hl]

theorem takes_literal {quote : Char} (h : IsQuote quote) (rest : List Char) :
    TokenKind.literal.Takes (quote :: (splitAfter quote rest).1) (splitAfter quote rest).2 := by
  by_cases hmem : quote ∈ rest
  · obtain ⟨body, after, rfl, hbody⟩ := List.eq_append_cons_of_mem hmem
    rw [splitAfter_of_mem hbody]
    exact .closed h hbody
  · rw [splitAfter_of_notMem hmem]
    exact .unclosed h hmem

theorem takes_scanToken {c : Char} (hsolid : Text.isBlank c = false) (rest : List Char) :
    (scanToken c rest).1.Takes (c :: (scanToken c rest).2.1) (scanToken c rest).2.2 := by
  rw [scanToken]
  split_ifs with hdigit hident hquote
  · exact .number hdigit (List.all_eq_true.1 List.all_takeWhile) fun y => head?_dropWhile_eq_false
  · exact .ident hident (by simpa using hdigit) (List.all_eq_true.1 List.all_takeWhile)
      fun y => head?_dropWhile_eq_false
  · exact takes_literal (by simpa [IsQuote] using hquote) rest
  · exact .punct hsolid (by simpa using hident) (by simpa [IsQuote] using hquote)

/-- The tokens of a text that starts at a byte offset, one after the other, with white space between them. -/
inductive Tokenized : Nat → List Char → List Token → Prop
  | nil {start : Nat} : Tokenized start [] []
  | blank {start : Nat} {c : Char} {rest : List Char} {ts : List Token} :
      Text.isBlank c = true → Tokenized (start + c.utf8Size) rest ts → Tokenized start (c :: rest) ts
  | token {start : Nat} {t : Token} {rest : List Char} {ts : List Token} :
      t.offset = start → t.kind.Takes t.text.toList rest → Tokenized t.stop rest ts →
      Tokenized start (t.text.toList ++ rest) (t :: ts)

theorem tokenized_tokenizeFrom (start : Nat) (text : List Char) :
    Tokenized start text (tokenizeFrom start text) := by
  fun_induction tokenizeFrom start text with
  | case1 => exact .nil
  | case2 start c rest hblank ih => exact .blank hblank ih
  | case3 start c rest hblank scanned word ih =>
    have htext : c :: rest = word ++ scanned.2.2 := by
      rw [List.cons_append, scanToken_append]
    have htakes := takes_scanToken (by simpa using hblank) rest
    let t : Token := ⟨scanned.1, String.ofList word, start⟩
    have hword : t.text.toList = word := String.toList_ofList
    have htoken : Tokenized start (t.text.toList ++ scanned.2.2) (t :: tokenizeFrom t.stop scanned.2.2) :=
      .token rfl (by rwa [hword]) (by rwa [Token.stop, hword])
    rwa [Token.stop, hword, ← htext] at htoken

namespace Tokenized

variable {start : Nat} {text : List Char} {ts : List Token}

/-- A token is the slice of the text at its offset. -/
theorem exists_slice (h : Tokenized start text ts) {t : Token} (ht : t ∈ ts) :
    ∃ a b, text = a ++ t.text.toList ++ b ∧ t.offset = start + Text.byteLength a ∧
      t.kind.Takes t.text.toList b := by
  induction h with
  | nil => cases ht
  | @blank start c rest ts _ _ ih =>
    obtain ⟨a, b, rfl, hoffset, htakes⟩ := ih ht
    refine ⟨c :: a, b, rfl, ?_, htakes⟩
    rw [hoffset, Text.byteLength, Nat.add_assoc]
  | @token start u rest ts hu htakes _ ih =>
    rcases List.mem_cons.1 ht with rfl | ht
    · exact ⟨[], rest, rfl, hu, htakes⟩
    · obtain ⟨a, b, rfl, hoffset, htakes⟩ := ih ht
      refine ⟨u.text.toList ++ a, b, by simp, ?_, htakes⟩
      rw [hoffset, Token.stop, hu, Text.byteLength_append, Nat.add_assoc]

theorem pairwise_stop_le (h : Tokenized start text ts) : ts.Pairwise fun t u => t.stop ≤ u.offset := by
  induction h with
  | nil => exact .nil
  | blank _ _ ih => exact ih
  | token _ _ hrest ih =>
    refine .cons (fun u hu => ?_) ih
    obtain ⟨a, -, -, hoffset, -⟩ := hrest.exists_slice hu
    omega

theorem exists_holds (h : Tokenized start text ts) {a b : List Char} {c : Char} (heq : text = a ++ c :: b)
    (hc : Text.isBlank c = false) : ∃ t ∈ ts, t.Holds (start + Text.byteLength a) c := by
  induction h generalizing a with
  | nil => simp at heq
  | @blank start d rest ts hd _ ih =>
    cases a with
    | nil =>
      obtain ⟨rfl, -⟩ := List.cons.inj heq
      rw [hd] at hc
      cases hc
    | cons x a =>
      obtain ⟨rfl, hrest⟩ := List.cons.inj heq
      obtain ⟨t, ht, hholds⟩ := ih hrest
      refine ⟨t, ht, ?_⟩
      rwa [Text.byteLength, ← Nat.add_assoc]
  | @token start t rest ts ht _ _ ih =>
    -- either the character is one of the first token, or that token lies before it
    rcases List.append_eq_append_iff.1 heq with ⟨m, ha, hm⟩ | ⟨m, ha, hm⟩
    · obtain ⟨u, hu, hholds⟩ := ih hm
      refine ⟨u, List.mem_cons_of_mem _ hu, ?_⟩
      rwa [ha, Text.byteLength_append, ← Nat.add_assoc, ← ht]
    · cases m with
      | nil =>
        obtain ⟨u, hu, hholds⟩ := ih (a := []) hm.symm
        refine ⟨u, List.mem_cons_of_mem _ hu, ?_⟩
        rwa [Token.stop, ha, List.append_nil, ht] at hholds
      | cons d m =>
        obtain ⟨rfl, -⟩ := List.cons.inj hm
        refine ⟨t, List.mem_cons_self, ?_, ?_⟩
        · omega
        · rw [Token.stop, ha, Text.byteLength_append, Text.byteLength]
          omega

/-- Between two words there is white space or another token. -/
theorem stop_ne_offset (h : Tokenized start text ts) {t u : Token} (ht : t ∈ ts) (hu : u ∈ ts)
    (htword : t.kind = .ident) (huword : u.kind = .ident) : t.stop ≠ u.offset := by
  intro hmeet
  obtain ⟨a, b, htext, hstart, htakes⟩ := h.exists_slice ht
  obtain ⟨a', b', htext', hstart', htakes'⟩ := h.exists_slice hu
  rw [htword] at htakes
  rw [huword] at htakes'
  -- the second word stands where the first one ends
  have hafter : b = u.text.toList ++ b' := by
    rw [htext, List.append_assoc a'] at htext'
    refine (Text.append_inj_of_byteLength htext' ?_).2
    rw [Text.byteLength_append]
    rw [Token.stop] at hmeet
    omega
  obtain ⟨x, hx, hword⟩ := htakes'.of_ident.1
  have hends := htakes.of_ident.2 x (by
    rw [hafter, List.head?_append, Option.mem_def.1 hx]
    rfl)
  rw [hword] at hends
  cases hends

end Tokenized

/-- At most one of several tokens that do not overlap holds a character. -/
theorem eq_of_holds {ts : List Token} (h : ts.Pairwise fun t u => t.stop ≤ u.offset) {t u : Token}
    (ht : t ∈ ts) (hu : u ∈ ts) {offset : Nat} {c : Char} (hct : t.Holds offset c) (hcu : u.Holds offset c) :
    t = u := by
  by_contra hne
  have hsize := Char.utf8Size_pos c
  obtain ⟨hct, htc⟩ := hct
  obtain ⟨hcu, huc⟩ := hcu
  have hor : ts.Pairwise fun t u => t.stop ≤ u.offset ∨ u.stop ≤ t.offset := h.imp Or.inl
  have hsymm : Std.Symm fun t u : Token => t.stop ≤ u.offset ∨ u.stop ≤ t.offset := ⟨fun _ _ => Or.symm⟩
  rcases hor.forall ht hu hne with h | h <;> omega

/-- The tokens of a text are slices of it, in order and without overlap, and leave out nothing but white
space. -/
theorem tokenize_slices_text (text : List Char) :
    (tokenize text).Pairwise (fun t u => t.offset < u.offset ∧ t.stop ≤ u.offset) ∧
    (∀ t ∈ tokenize text, t.text ≠ "" ∧ ∃ a b, text = a ++ t.text.toList ++ b ∧
      t.offset = Text.byteLength a ∧ t.kind.Takes t.text.toList b) ∧
    (∀ a c b, text = a ++ c :: b →
      ((∀ t ∈ tokenize text, ¬ t.Holds (Text.byteLength a) c) → Text.isBlank c = true) ∧
      (Text.isBlank c = false → ∃! t, t ∈ tokenize text ∧ t.Holds (Text.byteLength a) c)) ∧
    (tokenize text).Pairwise (fun t u => t.isIdent = true → u.isIdent = true → t.stop < u.offset) ∧
    (∀ t ∈ tokenize text, t.kind = .literal → ∃ quote body, IsQuote quote ∧ quote ∉ body ∧
      (t.text.toList = quote :: (body ++ [quote]) ∨
        t.text.toList = quote :: body ∧ t.stop = Text.byteLength text)) ∧
    ∀ t ∈ tokenize text, t.kind = .punct → t.text.length = 1 := by
  have h : Tokenized 0 text (tokenize text) := tokenized_tokenizeFrom 0 text
  have hholds : ∀ a c b, text = a ++ c :: b → Text.isBlank c = false →
      ∃ t ∈ tokenize text, t.Holds (Text.byteLength a) c := by
    intro a c b heq hc
    simpa using h.exists_holds heq hc
  refine ⟨?_, fun t ht => ?_, fun a c b heq => ⟨fun hnone => ?_, fun hc => ?_⟩, ?_, fun t ht hkind => ?_,
    fun t ht hkind => ?_⟩
  · exact (pairwise_tokenizeFrom 0 text).and h.pairwise_stop_le
  · obtain ⟨a, b, htext, hoffset, htakes⟩ := h.exists_slice ht
    exact ⟨by simpa using htakes.ne_nil, a, b, htext, by omega, htakes⟩
  · by_contra hc
    obtain ⟨t, ht, hheld⟩ := hholds a c b heq (by simpa using hc)
    exact hnone t ht hheld
  · obtain ⟨t, ht, hheld⟩ := hholds a c b heq hc
    exact ⟨t, ⟨ht, hheld⟩, fun u hu => eq_of_holds h.pairwise_stop_le hu.1 ht hu.2 hheld⟩
  · refine h.pairwise_stop_le.imp_of_mem fun {t u} ht hu hle htword huword => ?_
    exact Nat.lt_of_le_of_ne hle (h.stop_ne_offset ht hu (beq_iff_eq.1 htword) (beq_iff_eq.1 huword))
  · obtain ⟨a, b, htext, hoffset, htakes⟩ := h.exists_slice ht
    rw [hkind] at htakes
    obtain ⟨quote, body, hquote, hbody, hword⟩ := htakes.of_literal
    refine ⟨quote, body, hquote, hbody, hword.imp_right fun ⟨hword, hb⟩ => ⟨hword, ?_⟩⟩
    rw [htext, hb, List.append_nil, Text.byteLength_append, Token.stop, hoffset, Nat.zero_add]
  · obtain ⟨_, _, _, _, htakes⟩ := h.exists_slice ht
    rw [hkind] at htakes
    rw [← String.length_toList]
    exact htakes.of_punct

end Source

end Guideline
