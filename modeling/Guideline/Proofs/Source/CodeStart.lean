import Guideline.Proofs.Source.MaskTrace

/-!
# The code at the start of a line

A line that starts in code may start with any code and with literals that are complete on it
(`CodeStart`). Masking is back in code behind such a start (`CodeStart.after_eq`), and slashes that
stand together in it are in a literal, of which the closing quote is left (`CodeStart.not_allBlank`).
-/

namespace Guideline.Source

/-- The word that a text ends in. -/
def lastWord (p : List Char) : String :=
  String.ofList (p.reverse.takeWhile isIdentChar).reverse

/-- The literals that are complete on their line, behind the text `p`; `n` tells whether masking is
within a number before the literal, and the last argument whether it is behind it. -/
inductive LineLiteral (p : List Char) (n : Bool) : List Char → Bool → Prop
  | string {body : List Char} : lastWord p ∉ rawMarkers → LiteralBody '"' body →
      LineLiteral p n ('"' :: (body ++ ['"'])) false
  /-- In a number, an apostrophe before a letter or digit is a separator. -/
  | character {body : List Char} :
      (n = true → ∀ c ∈ body.head?, isAsciiAlphanumeric c = false) →
      LiteralBody '\'' body → LineLiteral p n ('\'' :: (body ++ ['\''])) false
  | raw {d body : List Char} : lastWord p ∈ rawMarkers → d.length ≤ maxDelimiter → IsDelimiter d →
      ¬ ')' :: (d ++ ['"']) <:+: body →
      LineLiteral p n ('"' :: (d ++ '(' :: (body ++ ')' :: (d ++ ['"'])))) n

/-- The line may start with the text, which is made of code and complete literals; the flag tells
whether it ends within a number. -/
inductive CodeStart : List Char → Bool → Prop
  | nil : CodeStart [] false
  /-- A character of code, which starts no comment. -/
  | code {p : List Char} {n : Bool} {c : Char} : CodeStart p n → c ≠ '"' → c ≠ '\'' →
      (c = '/' ∨ c = '*' → p.getLast? ≠ some '/') →
      CodeStart (p ++ [c]) (c.isDigit && !p.getLast?.any isIdentChar || n && (isIdentChar c || c == '.'))
  | separator {p : List Char} {c : Char} : CodeStart p true → isAsciiAlphanumeric c = true →
      CodeStart (p ++ ['\'', c]) true
  | literal {p w : List Char} {n n' : Bool} : CodeStart p n → LineLiteral p n w n' →
      CodeStart (p ++ w) n'

/-- No comment starts with the last character of `p` when `rest` follows. -/
def NoCommentAcross (p rest : List Char) : Prop :=
  p.getLast? = some '/' → rest.head? ≠ some '/' ∧ rest.head? ≠ some '*'

/-! ### Literals -/

theorem Region.IsLiteral.after_eq {r : Region} {quote : Char} (hr : r.IsLiteral quote) {body : List Char}
    (h : LiteralBody quote body) (before rest : List Char) :
    Cursor.after ⟨r, false, []⟩ before body (quote :: rest) = ⟨r, false, []⟩ := by
  have hescape : ∀ before c t, Cursor.step ⟨r, false, []⟩ before '\\' (c :: t) =
      (false, ⟨r, false, [false]⟩) := fun before c t => hr.step_eq before '\\' (c :: t)
  have hplain : ∀ before c t, c ≠ quote → c ≠ '\\' →
      Cursor.step ⟨r, false, []⟩ before c t = (false, ⟨r, false, []⟩) := by
    intro before c t hq hb
    rw [hr.step_eq, Cursor.stepLiteral, if_neg hb, if_neg hq]
  induction h generalizing before with
  | nil => rfl
  | plain hq hb _ _ ih =>
    rw [Cursor.after, hplain _ _ _ hq hb]
    exact ih _
  | escape _ _ ih | splice _ ih =>
    rw [Cursor.after, List.cons_append, hescape]
    exact ih _
  | spliceReturn _ ih =>
    rw [Cursor.after, List.cons_append, hescape, Cursor.after]
    show Cursor.after ⟨r, false, []⟩ _ ('\n' :: _) _ = _
    rw [Cursor.after, hplain _ _ _ hr.quote_ne.1.symm (by decide)]
    exact ih _

theorem Cursor.after_skip (r : Region) (n : Bool) (ks : List Bool) (before w rest : List Char) :
    Cursor.after ⟨r, n, List.replicate w.length false ++ ks⟩ before w rest = ⟨r, n, ks⟩ := by
  induction w generalizing before with
  | nil => rfl
  | cons c w ih => exact ih (c :: before)

theorem Cursor.after_of_forall_step {cursor : Cursor} {w rest : List Char}
    (h : ∀ a c b, w = a ++ c :: b → ∀ before, (cursor.step before c (b ++ rest)).2 = cursor)
    (before : List Char) : cursor.after before w rest = cursor := by
  induction w generalizing before with
  | nil => rfl
  | cons c w ih =>
    rw [after, h [] c w rfl]
    exact ih (fun a d b hw => h (c :: a) d b (by rw [hw]; rfl)) (c :: before)

/-- The body of a raw string is passed over. -/
theorem after_rawBody {d body : List Char} (hd : IsDelimiter d)
    (hbody : ¬ ')' :: (d ++ ['"']) <:+: body) (n : Bool) (before rest : List Char) :
    Cursor.after ⟨.raw d, n, []⟩ before body (')' :: (d ++ '"' :: rest)) = ⟨.raw d, n, []⟩ := by
  refine Cursor.after_of_forall_step (fun a c b hw before => ?_) before
  rw [step_rawBody hd hbody hw List.prefix_rfl n before]

/-- The quote behind a raw marker opens a raw string. -/
theorem step_rawQuote {p d : List Char} (hp : lastWord p ∈ rawMarkers) (hd : IsDelimiter d)
    (hlen : d.length ≤ maxDelimiter) (n : Bool) (rest : List Char) :
    Cursor.step ⟨.code, n, []⟩ p.reverse '"' (d ++ '(' :: rest) =
      (true, ⟨.raw d, n, List.replicate (d ++ ['(']).length false ++ []⟩) := by
  have hdelimiter : rawDelimiter? p.reverse (d ++ '(' :: rest) = some d := by
    refine (if_pos (List.contains_iff_mem.2 hp)).trans ?_
    exact rawDelimiterFrom_append hd (by simpa using hlen) rest
  exact step_of_rawDelimiter? hdelimiter n

theorem step_rawClose {d : List Char} (n : Bool) (before rest : List Char) :
    Cursor.step ⟨.raw d, n, []⟩ before ')' (d ++ '"' :: rest) =
      (false, ⟨.code, n, List.replicate d.length false ++ [true]⟩) := by
  have hstart : Text.startsWith (d ++ ['"']) (d ++ '"' :: rest) = true :=
    Text.startsWith_iff.2 ⟨rest, by simp⟩
  simp [Cursor.step, hstart]

namespace LineLiteral

variable {p w : List Char} {n n' : Bool}

theorem head?_ne (h : LineLiteral p n w n') : w.head? ≠ some '/' ∧ w.head? ≠ some '*' := by
  cases h <;> simp

/-- Masking leaves the last quote of a literal and is then back in code. -/
theorem closes (h : LineLiteral p n w n') : ∃ front quote, w = front ++ [quote] ∧
    Text.isBlank quote = false ∧ ∀ rest,
      (Cursor.after ⟨.code, n, []⟩ p.reverse front (quote :: rest)).step (front.reverse ++ p.reverse)
        quote rest = (true, ⟨.code, n', []⟩) := by
  cases h with
  | @string body hword hbody =>
    refine ⟨'"' :: body, '"', rfl, by decide, fun rest => ?_⟩
    have hopen : Cursor.step ⟨.code, n, []⟩ p.reverse '"' (body ++ '"' :: rest) =
        (true, ⟨.string, false, []⟩) := by
      have hnone : rawDelimiter? p.reverse (body ++ '"' :: rest) = none :=
        if_neg (mt List.contains_iff_mem.1 hword)
      simp [Cursor.step, Cursor.stepCode, hnone]
    rw [Cursor.after, hopen, isLiteral_string.after_eq hbody]
    rfl
  | @character body hhead hbody =>
    refine ⟨'\'' :: body, '\'', rfl, by decide, fun rest => ?_⟩
    have hopen : Cursor.step ⟨.code, n, []⟩ p.reverse '\'' (body ++ '\'' :: rest) =
        (true, ⟨.character, false, []⟩) := by
      have hfirst : (n && (body ++ '\'' :: rest).head?.any isAsciiAlphanumeric) = false := by
        rw [Bool.and_eq_false_imp]
        intro hn
        cases body with
        | nil => rfl
        | cons c body => exact hhead hn c rfl
      generalize body ++ '\'' :: rest = t at hfirst ⊢
      simp [Cursor.step, Cursor.stepCode, hfirst]
    rw [Cursor.after, hopen, isLiteral_character.after_eq hbody]
    rfl
  | @raw d body hword hlen hd hbody =>
    refine ⟨'"' :: (d ++ ['('] ++ (body ++ (')' :: d))), '"', by simp, by decide, fun rest => ?_⟩
    have hline : d ++ ['('] ++ (body ++ ')' :: d) ++ '"' :: rest =
        d ++ '(' :: (body ++ ')' :: (d ++ '"' :: rest)) := by simp
    rw [Cursor.after, hline, step_rawQuote hword hd hlen, Cursor.after_append, Cursor.after_skip,
      Cursor.after_append, List.cons_append, after_rawBody hd hbody, Cursor.after, step_rawClose,
      Cursor.after_skip]
    rfl

end LineLiteral

/-! ### The start of a line -/

/-- A character of code that starts no comment and no literal is kept. -/
theorem stepCode_of_no_comment {c : Char} {rest : List Char} (hq : c ≠ '"') (ha : c ≠ '\'')
    (hs : c = '/' → rest.head? ≠ some '/' ∧ rest.head? ≠ some '*') (n : Bool) (before : List Char) :
    Cursor.step ⟨.code, n, []⟩ before c rest =
      (true, ⟨.code, c.isDigit && !before.head?.any isIdentChar ||
        n && (isIdentChar c || c == '.'), []⟩) := by
  by_cases hslash : c = '/'
  · subst hslash
    simp [Cursor.step, Cursor.stepCode, hs rfl]
  · exact stepCode_plain hslash hq ha n before rest

/-- A character that masking keeps keeps the masked line from being blank up to it. -/
theorem not_allBlank_of_keeps {front rest : List Char} {c : Char} (hc : Text.isBlank c = false)
    (hkeeps : ((Cursor.after {} [] front (c :: rest)).step (front.reverse ++ []) c rest).1 = true)
    {k : Nat} (hk : k ≤ front.length) :
    Text.allBlank ((maskFrom {} [] (front ++ c :: rest)).1.drop k) = false := by
  have hdrop := Cursor.drop_maskFrom {} [] front (c :: rest)
  simp only [maskFrom, hkeeps, if_pos] at hdrop
  rw [Bool.eq_false_iff, Ne, Text.allBlank, List.all_eq_true]
  intro hall
  have hmem : c ∈ (maskFrom {} [] (front ++ c :: rest)).1.drop front.length := by
    rw [hdrop]
    exact List.mem_cons_self
  rw [hall c (List.drop_subset_drop_left _ hk hmem)] at hc
  cases hc

theorem NoCommentAcross.append {p w : List Char} (h : NoCommentAcross p w) (hw : w ≠ [])
    (rest : List Char) : NoCommentAcross p (w ++ rest) := by
  intro hlast
  rw [List.head?_append_of_ne_nil w hw]
  exact h hlast

/-- What is put behind `p` makes no slashes with it, so slashes that stand together are in one of both. -/
theorem NoCommentAcross.slashes {p w b v : List Char} (h : NoCommentAcross p w)
    (hpw : p ++ w = b ++ '/' :: '/' :: v) :
    (∃ v', p = b ++ '/' :: '/' :: v') ∨ ∃ b', b = p ++ b' ∧ w = b' ++ '/' :: '/' :: v := by
  rcases List.append_eq_append_iff.1 hpw with hw | ⟨v', hp, hv⟩
  · exact .inr hw
  · rcases v' with _ | ⟨c, _ | ⟨c', v'⟩⟩
    · exact .inr ⟨[], by simpa using hp.symm, hv.symm⟩
    · obtain ⟨rfl, rfl⟩ : '/' = c ∧ w = '/' :: v := by simpa [eq_comm] using hv
      exact absurd rfl (h (by simp [hp])).1
    · obtain ⟨rfl, rfl, -⟩ : '/' = c ∧ '/' = c' ∧ v = v' ++ w := by simpa using hv
      exact .inl ⟨v', hp⟩

namespace CodeStart

variable {p : List Char} {n : Bool}

/-- Code without slashes and quotes may follow. -/
theorem append_run (h : CodeStart p n) (hp : p.getLast? ≠ some '/') (run : List Char)
    (hquote : '"' ∉ run) (happos : '\'' ∉ run) (hslash : '/' ∉ run) :
    ∃ n', CodeStart (p ++ run) n' := by
  induction run generalizing p n with
  | nil => exact ⟨n, by rwa [List.append_nil]⟩
  | cons c run ih =>
    rw [List.mem_cons, not_or] at hquote happos hslash
    rw [List.append_cons]
    refine ih (h.code (Ne.symm hquote.1) (Ne.symm happos.1) fun _ => hp) ?_ hquote.2 happos.2 hslash.2
    simpa using Ne.symm hslash.1

theorem noCommentAcross_singleton {c : Char} (h : c = '/' ∨ c = '*' → p.getLast? ≠ some '/') :
    NoCommentAcross p [c] := by
  intro hlast
  have hne := mt h (not_not.2 hlast)
  simpa using hne

theorem noCommentAcross_literal {w : List Char} {n' : Bool} (h : LineLiteral p n w n') :
    NoCommentAcross p w :=
  fun _ => h.head?_ne

/-- Masking is back in code behind code and complete literals. -/
theorem after_eq (h : CodeStart p n) {rest : List Char} (hrest : NoCommentAcross p rest) :
    Cursor.after {} [] p rest = ⟨.code, n, []⟩ := by
  induction h generalizing rest with
  | nil => rfl
  | @code p n c _ hq ha hslash ih =>
    have hstep := stepCode_of_no_comment hq ha (fun hc => hrest (by simp [hc])) n p.reverse
    rw [List.head?_reverse] at hstep
    rw [Cursor.after_append, ih ((noCommentAcross_singleton hslash).append (by simp) rest), List.append_nil]
    exact congrArg Prod.snd hstep
  | @separator p c _ hc ih =>
    have hident := isIdentChar_of_isAsciiAlphanumeric hc
    have hopen : Cursor.step ⟨.code, true, []⟩ p.reverse '\'' ([c] ++ rest) =
        (true, ⟨.code, true, []⟩) := by
      simp [Cursor.step, Cursor.stepCode, hc]
    rw [Cursor.after_append, ih (by simp [NoCommentAcross]), List.append_nil, Cursor.after, hopen,
      Cursor.after, stepCode_plain (isIdentChar_ne hident (by decide))
        (isIdentChar_ne hident (by decide)) (isIdentChar_ne hident (by decide)), hident]
    simp [Cursor.after]
  | @literal p w n n' _ hw ih =>
    obtain ⟨front, quote, rfl, -, hclose⟩ := hw.closes
    rw [Cursor.after_append, ih ((noCommentAcross_literal hw).append (by simp) rest), Cursor.after_append,
      List.append_nil]
    exact congrArg Prod.snd (hclose rest)

/-- Slashes that stand together in the start of a line are in a literal, so they do not vanish. -/
theorem not_allBlank (h : CodeStart p n) {b v rest : List Char} (hp : p = b ++ '/' :: '/' :: v)
    (hrest : NoCommentAcross p rest) :
    Text.allBlank ((maskFrom {} [] (p ++ rest)).1.drop b.length) = false := by
  induction h generalizing v rest with
  | nil => simp at hp
  | @code p n c _ _ _ hslash ih =>
    have hacross := noCommentAcross_singleton hslash
    rcases hacross.slashes hp with ⟨v', hp⟩ | ⟨b', -, hw⟩
    · rw [List.append_assoc]
      exact ih hp (hacross.append (by simp) rest)
    · have hlen := congrArg List.length hw
      simp only [List.length_append, List.length_cons, List.length_nil] at hlen
      omega
  | @separator p c _ _ ih =>
    have hacross : NoCommentAcross p ['\'', c] := by simp [NoCommentAcross]
    rcases hacross.slashes hp with ⟨v', hp⟩ | ⟨b', -, hw⟩
    · rw [List.append_assoc]
      exact ih hp (hacross.append (by simp) rest)
    · cases b' with
      | nil => simp at hw
      | cons d b' =>
        have hlen := congrArg List.length hw
        simp only [List.length_append, List.length_cons, List.length_nil] at hlen
        omega
  | @literal p w n n' h hw ih =>
    have hacross := noCommentAcross_literal hw
    obtain ⟨front, quote, rfl, hquote, hclose⟩ := hw.closes
    rcases hacross.slashes hp with ⟨v', hp⟩ | ⟨b', rfl, hw⟩
    · rw [List.append_assoc]
      exact ih hp (hacross.append (by simp) rest)
    · -- The quote that closes the literal stands behind the slashes.
      have hlen := congrArg List.length hw
      simp only [List.length_append, List.length_cons, List.length_nil] at hlen
      rw [List.append_assoc, List.append_assoc, ← List.append_assoc, List.singleton_append]
      refine not_allBlank_of_keeps hquote ?_ (by simp only [List.length_append]; omega)
      have hcode := h.after_eq (hacross.append (by simp) rest)
      rw [List.append_assoc, List.singleton_append] at hcode
      rw [Cursor.after_append, hcode, List.reverse_append, List.append_nil, List.append_nil, hclose]

end CodeStart

end Guideline.Source
