import Guideline.Proofs.Source.Lexeme
import Guideline.Proofs.Text.Affix

/-!
# Masking lexemes

Masking a text that starts with a lexeme leaves the masked lexeme and goes on in code behind it
(`Lexeme.masks`), so a text of lexemes is masked lexeme by lexeme.

Between lexemes the cursor is `{}` and the line so far does not end in an identifier character
(`AfterWord` is false): the first keeps apostrophes from being read as separators of a number that is
over, the second keeps a raw marker apart from a word before it.
-/

namespace Guideline.Source

/-- The line so far, last character first, ends in an identifier character. -/
def AfterWord (before : List Char) : Prop :=
  before.head?.any isIdentChar = true

theorem not_afterWord_cons {c : Char} (h : isIdentChar c = false) (before : List Char) :
    ¬ AfterWord (c :: before) := by
  simp [AfterWord, h]

theorem not_afterWord_nil : ¬ AfterWord [] := by
  simp [AfterWord]

/-- Masking `w` in front of any text leaves `m` and ends in code that does not follow a word. -/
def Masks (cursor : Cursor) (before w m : List Char) : Prop :=
  ∃ after, ¬ AfterWord after ∧ ∀ t, maskText cursor before (w ++ t) = m ++ maskText {} after t

section

variable {cursor : Cursor} {before w m : List Char}

theorem masks_nil (h : ¬ AfterWord before) : Masks {} before [] [] :=
  ⟨before, h, fun _ => rfl⟩

theorem Masks.cons {c : Char} {keep : Bool} {next : Cursor} (hc : ∀ t, ¬ AtLineEnd c (w ++ t))
    (hs : ∀ t, cursor.step before c (restOfLine (w ++ t)) = (keep, next))
    (h : Masks next (c :: before) w m) :
    Masks cursor before (c :: w) ((if keep then c else ' ') :: m) := by
  obtain ⟨after, ha, h⟩ := h
  exact ⟨after, ha, fun t => by rw [List.cons_append, maskText_of_step (hc t) (hs t), h]; rfl⟩

theorem Masks.keep {c : Char} {next : Cursor} (hc : ∀ t, ¬ AtLineEnd c (w ++ t))
    (hs : ∀ t, cursor.step before c (restOfLine (w ++ t)) = (true, next))
    (h : Masks next (c :: before) w m) : Masks cursor before (c :: w) (c :: m) :=
  .cons hc hs h

theorem Masks.drop {c : Char} {next : Cursor} (hc : ∀ t, ¬ AtLineEnd c (w ++ t))
    (hs : ∀ t, cursor.step before c (restOfLine (w ++ t)) = (false, next))
    (h : Masks next (c :: before) w m) : Masks cursor before (c :: w) (' ' :: m) :=
  .cons hc hs h

theorem Masks.newline (h : Masks { region := cursor.region.nextLine before.reverse } [] w m) :
    Masks cursor before ('\n' :: w) ('\n' :: m) := by
  obtain ⟨after, ha, h⟩ := h
  exact ⟨after, ha, fun t => by rw [List.cons_append, maskText_newline, h]; rfl⟩

theorem Masks.return_newline (h : Masks { region := cursor.region.nextLine before.reverse } [] w m) :
    Masks cursor before ('\r' :: '\n' :: w) ('\r' :: '\n' :: m) := by
  obtain ⟨after, ha, h⟩ := h
  exact ⟨after, ha, fun t => by
    rw [List.cons_append, List.cons_append, maskText_return_newline, h]; rfl⟩

theorem Masks.append {w' m' : List Char} (h : Masks cursor before w m)
    (h' : ∀ after, ¬ AfterWord after → Masks {} after w' m') :
    Masks cursor before (w ++ w') (m ++ m') := by
  obtain ⟨after, ha, h⟩ := h
  obtain ⟨after', ha', h'⟩ := h' after ha
  exact ⟨after', ha', fun t => by rw [List.append_assoc, h, h', List.append_assoc]⟩

/-- Decisions to blank out the next characters of the line are carried out. -/
theorem Masks.skip {r : Region} {n : Bool} {ks : List Bool} {v : List Char}
    (hv : ∀ c ∈ v, c ≠ '\n' ∧ c ≠ '\r') (h : Masks ⟨r, n, ks⟩ (v.reverse ++ before) w m) :
    Masks ⟨r, n, List.replicate v.length false ++ ks⟩ before (v ++ w) (blankOut v ++ m) := by
  induction v generalizing before with
  | nil => exact h
  | cons c v ih =>
    obtain ⟨hn, hr⟩ := hv c (by simp)
    rw [blankOut_cons (not_atLineEnd_of_ne hn hr v)]
    refine .drop (fun t => not_atLineEnd_of_ne hn hr _) (fun t => rfl)
      (ih (fun d hd => hv d (by simp [hd])) ?_)
    rw [List.reverse_cons, List.append_assoc] at h
    exact h

/-- A region that lines do not end is blanked out up to where it closes. -/
theorem Masks.blankOut {r : Region} (hr : ∀ line, r.nextLine line = r) {v mv : List Char}
    (hv : ∀ t, (v ++ t).head? ≠ some '\n') (h : ∀ before, Masks ⟨r, false, []⟩ before v mv)
    (hs : ∀ a c b, w = a ++ c :: b → ∀ before t,
      Cursor.step ⟨r, false, []⟩ before c (restOfLine (b ++ (v ++ t))) = (false, ⟨r, false, []⟩)) :
    ∀ before, Masks ⟨r, false, []⟩ before (w ++ v) (blankOut w ++ mv) := by
  fun_induction Source.blankOut w with
  | case1 => exact h
  | case2 w ih =>
    intro before
    refine .newline ?_
    rw [hr]
    exact ih (fun a c b hw => hs ('\n' :: a) c b (by rw [hw]; rfl)) []
  | case3 w ih =>
    intro before
    refine .return_newline ?_
    rw [hr]
    exact ih (fun a c b hw => hs ('\r' :: '\n' :: a) c b (by rw [hw]; rfl)) []
  | case4 c w hn hr' ih =>
    intro before
    rw [List.cons_append, List.cons_append]
    refine .drop (fun t => ?_) (fun t => ?_)
      (ih (fun a d b hw => hs (c :: a) d b (by rw [hw]; rfl)) (c :: before))
    · rw [List.append_assoc]
      exact (atLineEnd_append (hv t)).not.2 (not_atLineEnd hn hr')
    · rw [List.append_assoc]
      exact hs [] c w rfl before t

end

/-! ### Literals -/

section

variable {quote : Char} {r : Region}

theorem LiteralBody.head?_ne_newline {body : List Char} (h : LiteralBody quote body) :
    body.head? ≠ some '\n' := by
  cases h with
  | nil => simp
  | plain _ _ hc _ => simpa using hc
  | escape | splice | spliceReturn => simp

/-- What makes `r` the region of the ordinary literals between the given quotes. -/
structure Region.IsLiteral (r : Region) (quote : Char) : Prop where
  step_eq : ∀ before c rest,
    Cursor.step ⟨r, false, []⟩ before c rest = Cursor.stepLiteral r quote false c rest
  nextLine_eq : ∀ line, Text.endsWithChar '\\' line = true → r.nextLine line = r
  quote_eq : quote = '"' ∨ quote = '\''

theorem isLiteral_string : Region.IsLiteral .string '"' :=
  ⟨fun _ _ _ => rfl, fun _ h => if_pos h, .inl rfl⟩

theorem isLiteral_character : Region.IsLiteral .character '\'' :=
  ⟨fun _ _ _ => rfl, fun _ h => if_pos h, .inr rfl⟩

namespace Region.IsLiteral

theorem quote_ne (hr : r.IsLiteral quote) :
    quote ≠ '\n' ∧ quote ≠ '\r' ∧ quote ≠ '\\' ∧ isIdentChar quote = false := by
  rcases hr.quote_eq with rfl | rfl <;> decide

/-- A backslash at the end of a line takes the literal to the next line. -/
theorem nextLine_splice (hr : r.IsLiteral quote) (before : List Char) :
    r.nextLine ('\\' :: before).reverse = r :=
  hr.nextLine_eq _ (by simp [Text.endsWithChar])

theorem drop_splice (hr : r.IsLiteral quote) {before w m : List Char}
    (hw : ∀ t, restOfLine (w ++ t) = []) (h : Masks ⟨r, false, []⟩ ('\\' :: before) w m) :
    Masks ⟨r, false, []⟩ before ('\\' :: w) (' ' :: m) := by
  refine .drop (fun t => not_atLineEnd_of_ne (by decide) (by decide) _) (fun t => ?_) h
  rw [hw, hr.step_eq]
  rfl

theorem masks (hr : r.IsLiteral quote) {body : List Char} (h : LiteralBody quote body)
    (before : List Char) :
    Masks ⟨r, false, []⟩ before (body ++ [quote]) (blankOut body ++ [quote]) := by
  obtain ⟨hqn, hqr, hqb, hqi⟩ := hr.quote_ne
  have hq : ∀ t, ([quote] ++ t).head? ≠ some '\n' := by simp [hqn]
  induction h generalizing before with
  | nil =>
    refine .keep (fun t => not_atLineEnd_of_ne hqn hqr _) (fun t => ?_)
      (masks_nil (not_afterWord_cons hqi before))
    rw [hr.step_eq, Cursor.stepLiteral, if_neg hqb, if_pos rfl]
  | @plain c body hcq hcb hcn h ih =>
    have hc : ¬ AtLineEnd c body := by simp [AtLineEnd, hcn, h.head?_ne_newline]
    rw [blankOut_cons hc, List.cons_append, List.cons_append]
    refine .drop (fun t => ?_) (fun t => ?_) (ih _)
    · rw [List.append_assoc]
      exact (atLineEnd_append (hq t)).not.2 hc
    · rw [hr.step_eq, Cursor.stepLiteral, if_neg hcb, if_neg hcq]
  | @escape c body hcn h ih =>
    have hc : ¬ AtLineEnd c body := by simp [AtLineEnd, hcn, h.head?_ne_newline]
    have hc' : ∀ t, ¬ AtLineEnd c (body ++ [quote] ++ t) := by
      intro t
      rw [List.append_assoc]
      exact (atLineEnd_append (hq t)).not.2 hc
    rw [blankOut_cons (not_atLineEnd_of_ne (by decide) (by decide) _), blankOut_cons hc]
    have hd : Masks ⟨r, false, [false]⟩ ('\\' :: before) (c :: (body ++ [quote]))
        (' ' :: (blankOut body ++ [quote])) := .drop hc' (fun t => rfl) (ih _)
    rw [List.cons_append, List.cons_append]
    refine .drop (fun t => not_atLineEnd_of_ne (by decide) (by decide) _) (fun t => ?_) hd
    rw [List.cons_append, restOfLine_cons (hc' t), hr.step_eq]
    rfl
  | @splice body h ih =>
    rw [blankOut_cons (not_atLineEnd_of_ne (by decide) (by decide) _), blankOut]
    refine hr.drop_splice (fun t => rfl) (.newline ?_)
    rw [hr.nextLine_splice]
    exact ih []
  | @spliceReturn body h ih =>
    rw [blankOut_cons (not_atLineEnd_of_ne (by decide) (by decide) _), blankOut]
    refine hr.drop_splice (fun t => rfl) (.return_newline ?_)
    rw [hr.nextLine_splice]
    exact ih []

end Region.IsLiteral

end

/-! ### Comments -/

theorem masks_close_blockComment (before : List Char) :
    Masks ⟨.blockComment, false, []⟩ before ['*', '/'] [' ', ' '] := by
  have h : Masks ⟨.code, false, [false]⟩ ('*' :: before) ['/'] [' '] :=
    .drop (fun t => not_atLineEnd_of_ne (by decide) (by decide) _) (fun t => rfl)
      (masks_nil (not_afterWord_cons (by decide) _))
  refine .drop (fun t => not_atLineEnd_of_ne (by decide) (by decide) _) (fun t => ?_) h
  rw [List.cons_append, restOfLine_cons (not_atLineEnd_of_ne (by decide) (by decide) _)]
  rfl

theorem masks_blockComment {body : List Char} (h : ¬ ['*', '/'] <:+: body) (before : List Char) :
    Masks ⟨.blockComment, false, []⟩ before (body ++ ['*', '/']) (blankOut body ++ [' ', ' ']) := by
  refine .blankOut (fun _ => rfl) (by simp) masks_close_blockComment (fun a c b hw before t => ?_) before
  have hnot : ¬ (c = '*' ∧ (restOfLine (b ++ (['*', '/'] ++ t))).head? = some '/') := by
    rintro ⟨rfl, hhead⟩
    cases b with
    | nil =>
      rw [List.nil_append, List.cons_append,
        restOfLine_cons (not_atLineEnd_of_ne (by decide) (by decide) _)] at hhead
      simp at hhead
    | cons d b =>
      have hd : d = '/' := by
        rw [List.cons_append] at hhead
        by_cases hl : AtLineEnd d (b ++ (['*', '/'] ++ t))
        · rw [restOfLine_of_atLineEnd hl] at hhead
          simp at hhead
        · rw [restOfLine_cons hl] at hhead
          simpa using hhead
      exact h ⟨a, b, by simp [hw, hd]⟩
  simp only [Cursor.step]
  exact if_neg (by simpa using hnot)

/-- The rest of a line of a line comment is blanked out. -/
theorem maskText_lineComment {l : List Char} (hl : '\n' ∉ l) (before t : List Char) :
    maskText ⟨.lineComment, false, []⟩ before (l ++ '\n' :: t) = blankOut (l ++ ['\n']) ++
      maskText { region := Region.nextLine .lineComment (before.reverse ++ Text.chomp l) } [] t := by
  induction l generalizing before with
  | nil => rw [List.nil_append, maskText_newline, Text.chomp, List.append_nil]; rfl
  | cons c l ih =>
    rw [List.mem_cons, not_or] at hl
    by_cases h : c = '\r' ∧ l = []
    · obtain ⟨rfl, rfl⟩ := h
      rw [List.cons_append, List.nil_append, maskText_return_newline, Text.chomp, List.append_nil]
      rfl
    · have hhead : l.head? ≠ some '\n' := fun hd => hl.2 (List.mem_of_head? hd)
      have hc : ∀ v, ¬ AtLineEnd c (l ++ '\n' :: v) :=
        not_atLineEnd_append_newline (by simp [AtLineEnd, Ne.symm hl.1, hhead])
          fun hr hnil => h ⟨hr, hnil⟩
      have hchomp : Text.chomp (c :: l) = c :: Text.chomp l := by
        cases l with
        | nil => exact Text.chomp_cons (fun hr => h ⟨hr, rfl⟩) []
        | cons d l => exact Text.chomp_cons_cons c d l
      rw [List.cons_append, maskText_of_step (hc t) rfl, ih hl.2, List.cons_append,
        blankOut_cons (hc []), hchomp, List.reverse_cons, List.append_assoc]
      rfl

theorem masks_lineComment {body : List Char} (h : LineCommentBody body) {before : List Char}
    (hb : before.head? ≠ some '\\') :
    Masks ⟨.lineComment, false, []⟩ before (body ++ ['\n']) (blankOut (body ++ ['\n'])) := by
  induction h generalizing before with
  | @last l hl hlast =>
    refine ⟨[], not_afterWord_nil, fun t => ?_⟩
    rw [List.append_assoc, List.cons_append, List.nil_append, maskText_lineComment hl,
      Region.nextLine, Text.endsWithChar_append (by simpa using hb), hlast]
    rfl
  | @runOn l w hl hlast hw ih =>
    obtain ⟨after, ha, h⟩ := @ih [] (by simp)
    have hlw : l ++ '\n' :: w ++ ['\n'] = l ++ '\n' :: (w ++ ['\n']) := by simp
    have hnext : Region.nextLine .lineComment (before.reverse ++ Text.chomp l) = .lineComment := by
      rw [Region.nextLine, Text.endsWithChar_append (by simpa using hb), hlast]
      rfl
    refine ⟨after, ha, fun t => ?_⟩
    calc maskText ⟨.lineComment, false, []⟩ before (l ++ '\n' :: w ++ ['\n'] ++ t)
        = maskText ⟨.lineComment, false, []⟩ before (l ++ '\n' :: (w ++ ['\n'] ++ t)) := by
          rw [hlw, List.append_assoc, List.cons_append]
      _ = blankOut (l ++ ['\n']) ++ (blankOut (w ++ ['\n']) ++ maskText {} after t) := by
          rw [maskText_lineComment hl, hnext, h]
      _ = blankOut (l ++ '\n' :: w ++ ['\n']) ++ maskText {} after t := by
          rw [hlw, blankOut_append_newline l (w ++ ['\n']), List.append_assoc]

/-! ### Raw strings -/

theorem isIdentChar_ne {c d : Char} (hc : isIdentChar c = true) (hd : isIdentChar d = false) : c ≠ d := by
  rintro rfl
  rw [hc] at hd
  contradiction

theorem isIdentChar_of_isAsciiAlphanumeric {c : Char} (h : isAsciiAlphanumeric c = true) :
    isIdentChar c = true := by
  have hlt : c.toNat < 128 := by
    have hcases : ((c.isUpper || c.isLower) || c.isDigit) = true := h
    rw [Bool.or_eq_true, Bool.or_eq_true] at hcases
    rcases hcases with (hupper | hlower) | hdigit
    · have hle : c.val ≤ 'Z'.val := (of_decide_eq_true hupper).2
      exact Nat.lt_of_le_of_lt hle (by decide)
    · have hle : c.val ≤ 'z'.val := of_decide_eq_true (Bool.and_eq_true_iff.1 hlower).2
      exact Nat.lt_of_le_of_lt hle (by decide)
    · have hle : c.val ≤ '9'.val := of_decide_eq_true (Bool.and_eq_true_iff.1 hdigit).2
      exact Nat.lt_of_le_of_lt hle (by decide)
  rw [isIdentChar, Unicode.isAlphanumeric, if_pos hlt]
  exact (congrArg (· || c == '_') h).trans (Bool.true_or _)

theorem isIdentChar_of_isDigit {c : Char} (h : c.isDigit = true) : isIdentChar c = true :=
  isIdentChar_of_isAsciiAlphanumeric (by simp [isAsciiAlphanumeric, Char.isAlphanum, h])

theorem stepCode_plain {c : Char} (hs : c ≠ '/') (hq : c ≠ '"') (ha : c ≠ '\'') (n : Bool)
    (before rest : List Char) :
    Cursor.step ⟨.code, n, []⟩ before c rest =
      (true, ⟨.code, c.isDigit && !before.head?.any isIdentChar ||
        n && (isIdentChar c || c == '.'), []⟩) := by
  simp [Cursor.step, Cursor.stepCode, hs, hq, ha]

/-- A word that does not start a number is kept. -/
theorem Masks.word {before v w m : List Char} (hv : ∀ c ∈ v, isIdentChar c = true)
    (hd : AfterWord before ∨ v.head?.any Char.isDigit = false)
    (h : Masks {} (v.reverse ++ before) w m) : Masks {} before (v ++ w) (v ++ m) := by
  induction v generalizing before with
  | nil => exact h
  | cons c v ih =>
    have hc := hv c (by simp)
    have hnum : (c.isDigit && !before.head?.any isIdentChar) = false := by
      rcases hd with hb | hd
      · rw [AfterWord] at hb
        rw [hb, Bool.not_true, Bool.and_false]
      · rw [show c.isDigit = false from hd, Bool.false_and]
    refine .keep (fun t => not_atLineEnd_of_ne (isIdentChar_ne hc (by decide))
      (isIdentChar_ne hc (by decide)) _) (fun t => ?_)
      (ih (fun d hd => hv d (by simp [hd])) (.inl (by simp [AfterWord, hc])) ?_)
    · rw [stepCode_plain (isIdentChar_ne hc (by decide)) (isIdentChar_ne hc (by decide))
        (isIdentChar_ne hc (by decide)), hnum]
      rfl
    · rw [List.reverse_cons, List.append_assoc] at h
      exact h

theorem restOfLine_append {v : List Char} (hv : ∀ c ∈ v, c ≠ '\n' ∧ c ≠ '\r') (t : List Char) :
    restOfLine (v ++ t) = v ++ restOfLine t := by
  induction v with
  | nil => rfl
  | cons c v ih =>
    obtain ⟨hn, hr⟩ := hv c (by simp)
    rw [List.cons_append, restOfLine_cons (not_atLineEnd_of_ne hn hr _),
      ih fun d hd => hv d (by simp [hd])]
    rfl

theorem restOfLine_isPrefix (t : List Char) : restOfLine t <+: t := by
  fun_induction restOfLine t with
  | case1 | case2 | case3 => exact List.nil_prefix
  | case4 c t _ _ ih => exact List.cons_prefix_cons.2 ⟨rfl, ih⟩

theorem IsDelimiter.inline {d : List Char} (hd : IsDelimiter d) : ∀ c ∈ d, c ≠ '\n' ∧ c ≠ '\r' := by
  intro c hc
  obtain ⟨-, -, -, hb⟩ := hd c hc
  constructor <;> rintro rfl <;> revert hb <;> decide

theorem IsDelimiter.inline_append {d : List Char} (hd : IsDelimiter d) {x : Char} (hn : x ≠ '\n')
    (hr : x ≠ '\r') : ∀ c ∈ d ++ [x], c ≠ '\n' ∧ c ≠ '\r' := by
  intro c hc
  rcases List.mem_append.1 hc with hc | hc
  · exact hd.inline c hc
  · rw [List.mem_singleton.1 hc]
    exact ⟨hn, hr⟩

theorem rawDelimiterFrom_append {d : List Char} (hd : IsDelimiter d) {acc : List Char}
    (hlen : acc.length + d.length ≤ maxDelimiter) (rest : List Char) :
    rawDelimiterFrom acc (d ++ '(' :: rest) = some (acc ++ d) := by
  induction d generalizing acc with
  | nil => simp [rawDelimiterFrom]
  | cons c d ih =>
    obtain ⟨ho, hc, hs, hb⟩ := hd c (by simp)
    rw [List.length_cons] at hlen
    have hlt : ¬ maxDelimiter ≤ acc.length := by omega
    rw [List.cons_append, rawDelimiterFrom, if_neg ho, if_neg (by simp [hc, hs, hb, hlt]),
      ih (fun e he => hd e (by simp [he])) (by rw [List.length_append, List.length_singleton]; omega),
      List.append_assoc]
    rfl

theorem takeWhile_of_not_afterWord {before : List Char} (hb : ¬ AfterWord before) :
    before.takeWhile isIdentChar = [] := by
  cases before with
  | nil => rfl
  | cons c before =>
    have hc : isIdentChar c = false := by simpa [AfterWord] using hb
    rw [List.takeWhile_cons, hc]
    rfl

theorem rawDelimiter?_marker {marker : String} (hm : marker ∈ rawMarkers)
    (hw : ∀ c ∈ marker.toList, isIdentChar c = true) {before : List Char} (hb : ¬ AfterWord before)
    (rest : List Char) :
    rawDelimiter? (marker.toList.reverse ++ before) rest = rawDelimiterFrom [] rest := by
  have hword : (marker.toList.reverse ++ before).takeWhile isIdentChar = marker.toList.reverse := by
    rw [List.takeWhile_append_of_pos (by simpa using hw), takeWhile_of_not_afterWord hb,
      List.append_nil]
  rw [rawDelimiter?, hword, List.reverse_reverse, String.ofList_toList,
    if_pos (List.contains_iff_mem.2 hm)]

theorem masks_close_raw {d : List Char} (hd : IsDelimiter d) (before : List Char) :
    Masks ⟨.raw d, false, []⟩ before (')' :: (d ++ ['"'])) (' ' :: (blankOut d ++ ['"'])) := by
  have hquote : Masks ⟨.code, false, [true]⟩ (d.reverse ++ ')' :: before) ['"'] ['"'] :=
    .keep (fun t => not_atLineEnd_of_ne (by decide) (by decide) _) (fun t => rfl)
      (masks_nil (not_afterWord_cons (by decide) _))
  refine .drop (fun t => not_atLineEnd_of_ne (by decide) (by decide) _) (fun t => ?_)
    (.skip hd.inline hquote)
  have hstart : Text.startsWith (d ++ ['"']) (restOfLine (d ++ ['"'] ++ t)) = true := by
    rw [restOfLine_append (hd.inline_append (by decide) (by decide))]
    exact Text.startsWith_iff.2 (List.prefix_append _ _)
  generalize restOfLine (d ++ ['"'] ++ t) = rest at hstart ⊢
  simp [Cursor.step, hstart]

/-- Nothing in the body of a raw string closes it. -/
theorem step_rawBody {d body a b t rest : List Char} {c : Char} (hd : IsDelimiter d)
    (hbody : ¬ ')' :: (d ++ ['"']) <:+: body) (hw : body = a ++ c :: b) (hrest : rest <+: b ++ ')' :: t)
    (n : Bool) (before : List Char) :
    Cursor.step ⟨.raw d, n, []⟩ before c rest = (false, ⟨.raw d, n, []⟩) := by
  have hmem : ')' ∉ d ++ ['"'] := by
    intro h
    rcases List.mem_append.1 h with h | h
    · exact (hd _ h).2.1 rfl
    · exact absurd (List.mem_singleton.1 h) (by decide)
  have hnot : ¬ (c = ')' ∧ Text.startsWith (d ++ ['"']) rest = true) := by
    rintro ⟨rfl, h⟩
    obtain ⟨b', hb'⟩ := Text.isPrefix_of_isPrefix_append_cons ((Text.startsWith_iff.1 h).trans hrest) hmem
    exact hbody ⟨a, b', by rw [hw, ← hb']; simp⟩
  simp only [Cursor.step]
  exact if_neg (by simpa using hnot)

theorem masks_rawBody {d body : List Char} (hd : IsDelimiter d)
    (hbody : ¬ ')' :: (d ++ ['"']) <:+: body) (before : List Char) :
    Masks ⟨.raw d, false, []⟩ before (body ++ ')' :: (d ++ ['"']))
      (blankOut body ++ ' ' :: (blankOut d ++ ['"'])) := by
  refine .blankOut (fun _ => rfl) (by simp) (masks_close_raw hd) (fun a c b hw before t => ?_) before
  exact step_rawBody hd hbody hw (restOfLine_isPrefix _) false before

theorem blankOut_raw (d body : List Char) : blankOut (d ++ '(' :: (body ++ ')' :: d)) ++ ['"'] =
    blankOut (d ++ ['(']) ++ (blankOut body ++ ' ' :: (blankOut d ++ ['"'])) := by
  have hp : ∀ c t, c ≠ '\n' → c ≠ '\r' → blankOut (c :: t) = ' ' :: blankOut t :=
    fun c t hn hr => blankOut_cons (not_atLineEnd_of_ne hn hr t)
  rw [blankOut_append (by simp), blankOut_append (by simp), hp '(' _ (by decide) (by decide),
    hp '(' _ (by decide) (by decide), blankOut_append (by simp), hp ')' _ (by decide) (by decide)]
  simp [blankOut]

/-- The quote of a raw string opens it, and the delimiter and parenthesis are skipped. -/
theorem step_of_rawDelimiter? {before rest d : List Char} (h : rawDelimiter? before rest = some d) (n : Bool) :
    Cursor.step ⟨.code, n, []⟩ before '"' rest =
      (true, ⟨.raw d, n, List.replicate (d ++ ['(']).length false ++ []⟩) := by
  simp [Cursor.step, Cursor.stepCode, h]

theorem step_raw {marker : String} (hm : marker ∈ rawMarkers)
    (hword : ∀ c ∈ marker.toList, isIdentChar c = true) {d before : List Char} (hd : IsDelimiter d)
    (hlen : d.length ≤ maxDelimiter) (hb : ¬ AfterWord before) (t : List Char) :
    Cursor.step {} (marker.toList.reverse ++ before) '"' (restOfLine (d ++ '(' :: t)) =
      (true, ⟨.raw d, false, List.replicate (d ++ ['(']).length false ++ []⟩) := by
  have hrest : rawDelimiter? (marker.toList.reverse ++ before) (restOfLine (d ++ '(' :: t)) =
      some d := by
    rw [rawDelimiter?_marker hm hword hb, restOfLine_append hd.inline,
      restOfLine_cons (not_atLineEnd_of_ne (by decide) (by decide) _)]
    exact rawDelimiterFrom_append hd (by simpa using hlen) _
  exact step_of_rawDelimiter? hrest false

theorem masks_raw {marker : String} {d body before : List Char}
    (h : (Lexeme.raw marker d body).WellFormed) (hb : ¬ AfterWord before) :
    Masks {} before (Lexeme.raw marker d body).text (Lexeme.raw marker d body).masked := by
  obtain ⟨hm, hlen, hd, hbody⟩ := h
  have hmarker : marker.toList.all isIdentChar = true ∧
      marker.toList.head?.any Char.isDigit = false := by
    revert hm
    simp only [List.mem_cons, List.not_mem_nil, or_false]
    rintro (rfl | rfl | rfl | rfl | rfl) <;> decide
  have hword : ∀ c ∈ marker.toList, isIdentChar c = true := List.all_eq_true.1 hmarker.1
  have hskip := Masks.skip (hd.inline_append (by decide) (by decide) : ∀ c ∈ d ++ ['('], _)
    (masks_rawBody hd hbody ((d ++ ['(']).reverse ++ '"' :: (marker.toList.reverse ++ before)))
  rw [List.append_assoc] at hskip
  rw [Lexeme.text, Lexeme.masked, blankOut_raw]
  refine .word hword (.inr hmarker.2) ?_
  refine .keep (fun t => not_atLineEnd_of_ne (by decide) (by decide) _) (fun t => ?_) hskip
  rw [List.append_assoc, List.cons_append]
  exact step_raw hm hword hd hlen hb _

/-! ### Code -/

theorem endsInNumber_append_singleton {l : List Char} {c : Char} (h : EndsInNumber (l ++ [c])) :
    (c.isDigit = true ∧ ∀ d ∈ l.getLast?, isIdentChar d = false) ∨
      (EndsInNumber l ∧ (isIdentChar c = true ∨ c = '.' ∨ c = '\'')) := by
  obtain ⟨l', d, m, hl, hd, hl', hm⟩ := h
  cases m using List.reverseRecOn with
  | nil =>
    obtain ⟨rfl, hcd⟩ := List.append_inj' hl rfl
    rw [List.cons.injEq] at hcd
    exact .inl ⟨hcd.1 ▸ hd, hl'⟩
  | append_singleton m e =>
    rw [← List.cons_append, ← List.append_assoc] at hl
    obtain ⟨rfl, hce⟩ := List.append_inj' hl rfl
    rw [List.cons.injEq] at hce
    exact .inr ⟨⟨l', d, m, rfl, hd, hl', fun x hx => hm x (by simp [hx])⟩,
      hce.1 ▸ hm e (by simp)⟩

/-- What the cursor knows behind the part `l` of a run of code. -/
structure InRun (l : List Char) (inNumber : Bool) (before : List Char) : Prop where
  word : AfterWord before → ∃ c ∈ l.getLast?, isIdentChar c = true
  number : EndsInNumber l → inNumber = true
  last : inNumber = true → ∃ c ∈ l.getLast?, isIdentChar c = true ∨ c = '.' ∨ c = '\''

namespace InRun

variable {l before : List Char} {n : Bool}

theorem nil (h : ¬ AfterWord before) : InRun [] false before where
  word hb := absurd hb h
  number := by
    rintro ⟨l', d, m, hl, -⟩
    simp at hl
  last := by simp

theorem newline (l : List Char) : InRun (l ++ ['\n']) false [] where
  word hb := absurd hb not_afterWord_nil
  number h := by
    rcases endsInNumber_append_singleton h with ⟨hd, -⟩ | ⟨-, hc⟩
    · exact absurd hd (by decide)
    · exact absurd hc (by decide)
  last := by simp

theorem separator (l before : List Char) : InRun (l ++ ['\'']) true ('\'' :: before) where
  word hb := absurd hb (not_afterWord_cons (by decide) before)
  number _ := rfl
  last _ := by simp

theorem plain (h : InRun l n before) {c : Char} (ha : c ≠ '\'') :
    InRun (l ++ [c]) (c.isDigit && !before.head?.any isIdentChar ||
      n && (isIdentChar c || c == '.')) (c :: before) where
  word hb := ⟨c, by simp, by simpa [AfterWord] using hb⟩
  number hnum := by
    rcases endsInNumber_append_singleton hnum with ⟨hd, hl⟩ | ⟨hl, hc⟩
    · have hb : before.head?.any isIdentChar = false := by
        rw [Bool.eq_false_iff]
        intro hb
        obtain ⟨d, hd, hi⟩ := h.word hb
        rw [hl d hd] at hi
        contradiction
      simp [hd, hb]
    · have hc' : isIdentChar c = true ∨ c = '.' := by simpa [ha] using hc
      simp [h.number hl, hc']
  last hn := by
    refine ⟨c, by simp, ?_⟩
    simp only [Bool.or_eq_true, Bool.and_eq_true, beq_iff_eq] at hn
    rcases hn with ⟨hd, -⟩ | ⟨-, hc⟩
    · exact .inl (isIdentChar_of_isDigit hd)
    · exact hc.imp_right .inl

/-- At the end of a run the cursor is out of words and numbers. -/
theorem masks_end (h : InRun l n before) (hrun : IsCodeRun l) : Masks ⟨.code, n, []⟩ before [] [] := by
  have hn : n = false := by
    rw [Bool.eq_false_iff]
    intro hn
    obtain ⟨c, hc, hi⟩ := h.last hn
    obtain ⟨l', hl⟩ := List.getLast?_eq_some_iff.1 hc
    obtain ⟨hi', hdot⟩ := hrun.last c hc
    rcases hi with hi | hi | rfl
    · rw [hi'] at hi
      contradiction
    · exact hdot hi
    · simpa using (hrun.separator l' [] hl).2
  subst hn
  refine masks_nil fun hb => ?_
  obtain ⟨c, hc, hi⟩ := h.word hb
  rw [(hrun.last c hc).1] at hi
  contradiction

end InRun

/-- A carriage return is kept, whether or not a line feed follows. -/
theorem masks_return (n : Bool) (before : List Char) : Masks ⟨.code, n, []⟩ before ['\r'] ['\r'] := by
  refine ⟨'\r' :: before, not_afterWord_cons (by decide) before, fun t => ?_⟩
  by_cases ht : t.head? = some '\n'
  · obtain ⟨t, rfl⟩ := List.head?_eq_some_iff.1 ht
    rw [List.cons_append, List.nil_append, maskText_return_newline, maskText_newline]
    rfl
  · have hc : ¬ AtLineEnd '\r' t := by simp [AtLineEnd, ht]
    rw [List.cons_append, List.nil_append, maskText_of_step hc
      (stepCode_plain (by decide) (by decide) (by decide) n before _)]
    have hn : ('\r'.isDigit && !before.head?.any isIdentChar ||
        n && (isIdentChar '\r' || '\r' == '.')) = false := by
      rw [show '\r'.isDigit = false by decide, show isIdentChar '\r' = false by decide]
      simp
    rw [hn]
    rfl

theorem restOfLine_head? {t : List Char} {c : Char} (hc : c ∈ t.head?) (hn : c ≠ '\n') (hr : c ≠ '\r') :
    (restOfLine t).head? = some c := by
  obtain ⟨t, rfl⟩ := List.head?_eq_some_iff.1 hc
  rw [restOfLine_cons (not_atLineEnd_of_ne hn hr t)]
  rfl

/-- The rest of a run of code is kept. -/
theorem InRun.masks {l r before : List Char} {n : Bool} (h : InRun l n before)
    (hrun : IsCodeRun (l ++ r)) : Masks ⟨.code, n, []⟩ before r r := by
  induction r using blankOut.induct generalizing l n before with
  | case1 =>
    rw [List.append_nil] at hrun
    exact h.masks_end hrun
  | case2 r ih => exact .newline (ih (.newline l) (by simpa using hrun))
  | case3 r ih =>
    exact .return_newline (ih (.newline (l ++ ['\r'])) (by simpa using hrun))
  | case4 c r hn hr ih =>
    by_cases hlast : c = '\r' ∧ r = []
    · obtain ⟨rfl, rfl⟩ := hlast
      exact masks_return n before
    have hc : ∀ t, ¬ AtLineEnd c (r ++ t) := by
      intro t
      cases r with
      | nil => exact not_atLineEnd_of_ne hn (fun hc => hlast ⟨hc, rfl⟩) t
      | cons d r => exact not_atLineEnd hn fun t' hc ht => hr r hc (by simp_all)
    have hrun' : IsCodeRun (l ++ [c] ++ r) := by simpa using hrun
    have hmem : c ∈ l ++ c :: r := by simp
    by_cases ha : c = '\''
    · subst ha
      -- The run tells that the apostrophe is in a number, the invariant that the cursor knows.
      obtain ⟨hnum, d, hd, hda⟩ := hrun.separator l r rfl
      obtain rfl := h.number hnum
      refine .keep hc (fun t => ?_) (ih (.separator l before) hrun')
      have hhead : (restOfLine (r ++ t)).head? = some d := by
        refine restOfLine_head? ?_ ?_ ?_
        · obtain ⟨r, rfl⟩ := List.head?_eq_some_iff.1 hd
          rfl
        all_goals rintro rfl; revert hda; decide
      simp [Cursor.step, Cursor.stepCode, hhead, hda]
    · refine .keep hc (fun t => stepCode_plain ?_ ?_ ha n before _) (ih (h.plain ha) hrun')
      · rintro rfl; exact hrun.no_slash hmem
      · rintro rfl; exact hrun.no_quote hmem

/-! ### Lexemes -/

theorem rawDelimiter?_of_not_afterWord {before : List Char} (hb : ¬ AfterWord before)
    (rest : List Char) : rawDelimiter? before rest = none := by
  rw [rawDelimiter?, takeWhile_of_not_afterWord hb]
  exact if_neg (by decide)

theorem step_slash_star {rest : List Char} (h : rest.head? = some '*') (before : List Char) :
    Cursor.step {} before '/' rest = (false, ⟨.blockComment, false, [false]⟩) := by
  simp [Cursor.step, Cursor.stepCode, h]

theorem step_slash_slash {rest : List Char} (h : rest.head? = some '/') (before : List Char) :
    Cursor.step {} before '/' rest = (false, ⟨.lineComment, false, []⟩) := by
  simp [Cursor.step, Cursor.stepCode, h]

/-- Masking a lexeme in front of any text leaves the masked lexeme. -/
theorem Lexeme.masks {e : Lexeme} (h : e.WellFormed) {before : List Char} (hb : ¬ AfterWord before) :
    Masks {} before e.text e.masked := by
  have hplain : ∀ {c : Char}, c ≠ '\n' → c ≠ '\r' → ∀ w t, ¬ AtLineEnd c (w ++ t) :=
    fun hn hr w t => not_atLineEnd_of_ne hn hr (w ++ t)
  have hslash : ∀ w, blankOut ('/' :: w) = ' ' :: blankOut w :=
    fun w => blankOut_cons (not_atLineEnd_of_ne (by decide) (by decide) w)
  cases e with
  | code run => exact (InRun.nil hb).masks h
  | string body =>
    refine .keep (hplain (by decide) (by decide) _) (fun t => ?_) (isLiteral_string.masks h _)
    simp [Cursor.step, Cursor.stepCode, rawDelimiter?_of_not_afterWord hb]
  | character body =>
    exact .keep (hplain (by decide) (by decide) _) (fun t => rfl) (isLiteral_character.masks h _)
  | raw marker d body => exact masks_raw h hb
  | blockComment body =>
    have hstar : Masks ⟨.blockComment, false, [false]⟩ ('/' :: before) ('*' :: (body ++ ['*', '/']))
        (' ' :: (blankOut body ++ [' ', ' '])) :=
      .drop (hplain (by decide) (by decide) _) (fun t => rfl) (masks_blockComment h _)
    have hmask : (blockComment body).masked = ' ' :: ' ' :: (blankOut body ++ [' ', ' ']) := by
      rw [masked, hslash, blankOut_cons (not_atLineEnd_of_ne (by decide) (by decide) _),
        blankOut_append (by simp)]
      rfl
    rw [hmask]
    exact .drop (hplain (by decide) (by decide) _)
      (fun t => step_slash_star (restOfLine_head? rfl (by decide) (by decide)) before) hstar
  | lineComment body =>
    have hslash' : Masks ⟨.lineComment, false, []⟩ ('/' :: before) ('/' :: (body ++ ['\n']))
        (' ' :: blankOut (body ++ ['\n'])) :=
      .drop (hplain (by decide) (by decide) _) (fun t => rfl) (masks_lineComment h (by simp))
    rw [masked, hslash, hslash]
    exact .drop (hplain (by decide) (by decide) _)
      (fun t => step_slash_slash (restOfLine_head? rfl (by decide) (by decide)) before) hslash'

/-- A text of lexemes. -/
def lexemesText (es : List Lexeme) : List Char :=
  es.flatMap Lexeme.text

/-- What masking leaves of a text of lexemes. -/
def lexemesMasked (es : List Lexeme) : List Char :=
  es.flatMap Lexeme.masked

theorem masks_lexemes {es : List Lexeme} (h : ∀ e ∈ es, e.WellFormed) {before : List Char}
    (hb : ¬ AfterWord before) : Masks {} before (lexemesText es) (lexemesMasked es) := by
  induction es generalizing before with
  | nil => exact masks_nil hb
  | cons e es ih =>
    exact (Lexeme.masks (h e (by simp)) hb).append fun after ha =>
      ih (fun e' he' => h e' (by simp [he'])) ha

/-- Masking the lines of a text of lexemes keeps code, the markers of raw strings and the quotes of
literals, and blanks out everything else. -/
theorem maskLines_lines_lexemesText (es : List Lexeme) (h : ∀ e ∈ es, e.WellFormed) :
    maskLines (Text.lines (lexemesText es)) = Text.lines (lexemesMasked es) := by
  obtain ⟨after, -, hmask⟩ := masks_lexemes h not_afterWord_nil
  have hmask := hmask []
  rw [List.append_nil, maskText, List.append_nil] at hmask
  rw [maskLines_lines, hmask]

/-- One lexeme of each kind: a separated number, a literal and a line comment that are continued, a
raw string and a block comment with quotes and line endings in them. -/
def nestedLexemes : List Lexeme :=
  [.code "n = 1'000; ".toList, .string "a\\\"b\\\n c".toList, .code " ".toList,
    .raw "u8R" "x".toList "y)\"\n".toList, .blockComment " '\n\"".toList, .character "\\'".toList,
    .lineComment (" z\\".toList ++ '\n' :: "w".toList), .code ";\r\n".toList]

theorem nestedLexemes_wellFormed : ∀ e ∈ nestedLexemes, e.WellFormed := by
  have hlast : ∀ run : List Char, (run.getLast?.all fun c => !isIdentChar c && c != '.') = true →
      ∀ c ∈ run.getLast?, isIdentChar c = false ∧ c ≠ '.' := by
    intro run h c hc
    rw [Option.mem_def.1 hc] at h
    simpa using h
  have hcode : ∀ run : List Char, '\'' ∉ run → '"' ∉ run → '/' ∉ run →
      (run.getLast?.all fun c => !isIdentChar c && c != '.') = true → IsCodeRun run :=
    fun run ha hq hs hl => ⟨hq, hs, fun l r h => absurd (by simp [h]) ha, hlast run hl⟩
  simp only [nestedLexemes, List.forall_mem_cons, List.not_mem_nil, false_imp_iff, implies_true,
    and_true]
  refine ⟨⟨by decide, by decide, fun l r h => ?_, hlast _ (by decide)⟩, ?_,
    hcode _ (by decide) (by decide) (by decide) (by decide),
    ⟨by decide, by decide, fun c hc => ?_, by decide⟩, ?_, ?_, ?_,
    hcode _ (by decide) (by decide) (by decide) (by decide)⟩
  · have h' : "n = 1".toList ++ '\'' :: "000; ".toList = l ++ '\'' :: r := h
    obtain ⟨rfl, -, rfl⟩ := (List.append_cons_inj_of_notMem (by decide) (by decide)).1 h'
    refine ⟨⟨"n = ".toList, '1', [], rfl, by decide, fun c hc => ?_, by simp⟩, '0', rfl, by decide⟩
    exact (hlast _ (by decide) c hc).1
  · show LiteralBody '"' ['a', '\\', '"', 'b', '\\', '\n', ' ', 'c']
    exact .plain (by decide) (by decide) (by decide) <| .escape (by decide) <|
      .plain (by decide) (by decide) (by decide) <| .splice <|
      .plain (by decide) (by decide) (by decide) <| .plain (by decide) (by decide) (by decide) .nil
  · rw [show c = 'x' from List.mem_singleton.1 hc]
    decide
  · show ¬ _ <:+: _
    decide
  · show LiteralBody '\'' ['\\', '\'']
    exact .escape (by decide) .nil
  · exact .runOn (by decide) (by decide) (.last (by decide) (by decide))

theorem maskLines_nestedLexemes : (∀ e ∈ nestedLexemes, e.WellFormed) ∧
    maskLines (Text.lines ("n = 1'000; \"a\\\"b\\\n c\" u8R\"x(y)\"\n)x\"/* '\n\"*/" ++
        "'\\''// z\\\nw\n;\r\n").toList) =
      ["n = 1'000; \"     ", "  \" u8R\"     ", "  \"    ", "   '  '     ", " ", ";"].map String.toList :=
  ⟨nestedLexemes_wellFormed, (maskLines_lines_lexemesText nestedLexemes nestedLexemes_wellFormed :)⟩

end Guideline.Source
