import Guideline.Proofs.Text.Lines
import Guideline.Source.Mask

/-!
# Masking a text

`maskText` masks a text character by character and keeps its line endings, so that what is masked can
be told without cutting the text into lines. It does to a text what `maskLines` does to its lines
(`maskLines_lines`).
-/

namespace Guideline.Source

/-- The rest of the line that a text starts in. -/
def restOfLine : List Char → List Char
  | [] => []
  | '\n' :: _ => []
  | '\r' :: '\n' :: _ => []
  | c :: t => c :: restOfLine t

/-- Masks a text that starts at a cursor within a line, given what is before it in the line, last
character first. -/
def maskText (cursor : Cursor) (before : List Char) : List Char → List Char
  | [] => []
  | '\n' :: t => '\n' :: maskText { region := cursor.region.nextLine before.reverse } [] t
  | '\r' :: '\n' :: t =>
    '\r' :: '\n' :: maskText { region := cursor.region.nextLine before.reverse } [] t
  | c :: t =>
    (if (cursor.step before c (restOfLine t)).1 then c else ' ') ::
      maskText (cursor.step before c (restOfLine t)).2 (c :: before) t

/-- The next character ends the line. -/
def AtLineEnd (c : Char) (t : List Char) : Prop :=
  c = '\n' ∨ c = '\r' ∧ t.head? = some '\n'

theorem not_atLineEnd_of_ne {c : Char} (hn : c ≠ '\n') (hr : c ≠ '\r') (t : List Char) :
    ¬ AtLineEnd c t := by
  simp [AtLineEnd, hn, hr]

theorem not_atLineEnd {c : Char} {t : List Char} (hn : c ≠ '\n')
    (hr : ∀ t', c = '\r' → t = '\n' :: t' → False) : ¬ AtLineEnd c t := by
  rintro (rfl | ⟨rfl, ht⟩)
  · exact hn rfl
  · obtain ⟨t', rfl⟩ := List.head?_eq_some_iff.1 ht
    exact hr t' rfl rfl

section

variable {c : Char} {t : List Char} {cursor : Cursor} {before : List Char}

theorem restOfLine_cons (h : ¬ AtLineEnd c t) : restOfLine (c :: t) = c :: restOfLine t := by
  rw [restOfLine.eq_def]
  split <;> simp_all [AtLineEnd]

theorem restOfLine_of_atLineEnd (h : AtLineEnd c t) : restOfLine (c :: t) = [] := by
  rcases h with rfl | ⟨rfl, ht⟩
  · rw [restOfLine]
  · obtain ⟨t', rfl⟩ := List.head?_eq_some_iff.1 ht
    rw [restOfLine]

theorem maskText_newline : maskText cursor before ('\n' :: t) =
    '\n' :: maskText { region := cursor.region.nextLine before.reverse } [] t := by
  rw [maskText]

theorem maskText_return_newline : maskText cursor before ('\r' :: '\n' :: t) =
    '\r' :: '\n' :: maskText { region := cursor.region.nextLine before.reverse } [] t := by
  rw [maskText]

theorem maskText_cons (h : ¬ AtLineEnd c t) : maskText cursor before (c :: t) =
    (if (cursor.step before c (restOfLine t)).1 then c else ' ') ::
      maskText (cursor.step before c (restOfLine t)).2 (c :: before) t := by
  rw [maskText.eq_def]
  split <;> simp_all [AtLineEnd]

theorem maskText_of_step {keep : Bool} {next : Cursor} (h : ¬ AtLineEnd c t)
    (hs : cursor.step before c (restOfLine t) = (keep, next)) :
    maskText cursor before (c :: t) = (if keep then c else ' ') :: maskText next (c :: before) t := by
  rw [maskText_cons h, hs]

theorem lines_cons_of_not_atLineEnd (h : ¬ AtLineEnd c t) :
    Text.lines (c :: t) = Text.prepend c (Text.lines t) :=
  Text.lines_cons (fun hc => h (.inl hc)) fun hc ht => h (.inr ⟨hc, ht⟩)

theorem restOfLine_eq_head (t : List Char) : restOfLine t = (Text.lines t).head?.getD [] := by
  fun_induction restOfLine t with
  | case1 => rfl
  | case2 t => rw [Text.lines_newline]; rfl
  | case3 t => rw [Text.lines_return_newline]; rfl
  | case4 c t hn hr ih =>
    rw [lines_cons_of_not_atLineEnd, ih]
    · cases Text.lines t <;> rfl
    · exact not_atLineEnd hn hr

theorem head?_maskText_eq_newline (h : (maskText cursor before t).head? = some '\n') :
    t.head? = some '\n' := by
  rw [maskText.eq_def] at h
  split at h
  · simp at h
  · rfl
  · simp at h
  · split at h <;> simp_all

end

/-- Masks the lines of a text whose first line is entered at a cursor. -/
def maskLinesAt (cursor : Cursor) (before : List Char) : List (List Char) → List (List Char)
  | [] => []
  | line :: rest =>
    (maskFrom cursor before line).1 ::
      maskLinesFrom ((maskFrom cursor before line).2.nextLine (before.reverse ++ line)) rest

theorem maskLinesFrom_eq_maskLinesAt (region : Region) (ls : List (List Char)) :
    maskLinesFrom region ls = maskLinesAt { region } [] ls := by
  cases ls <;> rfl

theorem maskLinesAt_nil_cons (cursor : Cursor) (before : List Char) (ls : List (List Char)) :
    maskLinesAt cursor before ([] :: ls) =
      [] :: maskLinesAt { region := cursor.region.nextLine before.reverse } [] ls := by
  rw [maskLinesAt, List.append_nil, maskLinesFrom_eq_maskLinesAt]
  rfl

theorem maskLinesAt_prepend (cursor : Cursor) (before : List Char) (c : Char)
    (ls : List (List Char)) :
    maskLinesAt cursor before (Text.prepend c ls) =
      Text.prepend (if (cursor.step before c (ls.head?.getD [])).1 then c else ' ')
        (maskLinesAt (cursor.step before c (ls.head?.getD [])).2 (c :: before) ls) := by
  cases ls with
  | nil => rfl
  | cons l ls =>
    simp only [Text.prepend, maskLinesAt, List.reverse_cons, List.append_assoc]
    rfl

theorem lines_maskText (cursor : Cursor) (before t : List Char) :
    Text.lines (maskText cursor before t) = maskLinesAt cursor before (Text.lines t) := by
  fun_induction maskText cursor before t with
  | case1 => rfl
  | case2 cursor before t ih => rw [Text.lines_newline, Text.lines_newline, ih, maskLinesAt_nil_cons]
  | case3 cursor before t ih =>
    rw [Text.lines_return_newline, Text.lines_return_newline, ih, maskLinesAt_nil_cons]
  | case4 cursor before c t hn hr ih =>
    have hc : ¬ AtLineEnd c t := not_atLineEnd hn hr
    rw [lines_cons_of_not_atLineEnd hc, maskLinesAt_prepend, ← restOfLine_eq_head, ← ih]
    refine lines_cons_of_not_atLineEnd ?_
    split
    · rintro (rfl | ⟨rfl, ht⟩)
      · exact hn rfl
      · exact hc (.inr ⟨rfl, head?_maskText_eq_newline ht⟩)
    · exact not_atLineEnd_of_ne (by decide) (by decide) _

/-- Masking the lines of a text gives the lines of the masked text. -/
theorem maskLines_lines (t : List Char) :
    maskLines (Text.lines t) = Text.lines (maskText {} [] t) := by
  rw [lines_maskText]
  exact maskLinesFrom_eq_maskLinesAt .code _

end Guideline.Source
