import Guideline.Proofs.Source.Continuation
import Guideline.Proofs.Source.Extension

/-!
# Lines after a stray closing brace

A closing brace that closes nothing drops the pending text, and blanks are all that comes to be
pending on the rest of its line (`idle_feedLine`). Open parentheses stay open, though. So the lines
below are read as a file of their own just if none is (`statements_append_iff`): otherwise no `;`
ends a statement until the parentheses are closed.
-/

namespace Guideline.Source.Outline

section

variable {o : Outline} {depth : Nat}

theorem Idle.push (h : o.Idle depth) {c : Char} (hc : Text.isBlank c = true) (line : Nat) :
    (o.push c line).Idle depth := by
  refine { h with pending := fun l hl => ?_ }
  rw [Outline.push, Array.toList_push] at hl
  rcases List.mem_append.1 hl with hl | hl
  · exact h.pending l hl
  · rw [List.mem_singleton.1 hl]
    exact hc

theorem step_of_isBlank {c : Char} (hc : Text.isBlank c = true) (o : Outline) (line : Nat) :
    o.step line c = o.push c line := by
  have hne {d : Char} (hd : Text.isBlank d = false) : c ≠ d := by
    rintro rfl
    exact Bool.false_ne_true (hd.symm.trans hc)
  simp [step, hne (d := '(') (by decide), hne (d := ')') (by decide), hne (d := ';') (by decide),
    hne (d := '{') (by decide), hne (d := '}') (by decide)]

theorem Idle.endLine (h : o.Idle depth) (line : Nat) : (o.endLine line).Idle depth := by
  unfold Outline.endLine
  split
  · exact h
  · exact h.push (by decide) line

theorem Idle.foldl_step (h : o.Idle depth) (line : Nat) {blanks : List Char}
    (hblank : ∀ c ∈ blanks, Text.isBlank c = true) :
    (blanks.foldl (fun o c => o.step line c) o).Idle depth := by
  induction blanks generalizing o with
  | nil => exact h
  | cons c blanks ih =>
    obtain ⟨hc, hblank⟩ := List.forall_mem_cons.1 hblank
    rw [List.foldl_cons, step_of_isBlank hc]
    exact ih (h.push hc line) hblank

theorem idle_closeBlock (hstack : o.stack = []) (line : Nat) : (o.closeBlock line).Idle o.depth := by
  rw [closeBlock, hstack]
  exact ⟨rfl, rfl, by simp⟩

/-- The parentheses that are open at the brace are still open at the end of its line. -/
theorem idle_feedLine {line : Nat} {before after : List Char}
    (hstack : (before.foldl (fun o c => o.step line c) o).stack = [])
    (hafter : ∀ c ∈ after, Text.isBlank c = true) :
    (o.feedLine line (before ++ '}' :: after)).Idle
      (before.foldl (fun o c => o.step line c) o).depth := by
  rw [feedLine, List.foldl_append, List.foldl_cons, step_closing]
  exact ((idle_closeBlock hstack line).foldl_step line hafter).endLine line

/-- Within parentheses no `;` ends a statement. -/
theorem Idle.statements_feedLine (h : o.Idle depth) (hdepth : depth ≠ 0) (line : Nat) :
    (o.feedLine line ['x', ';']).statements = o.statements := by
  have hx : o.step line 'x' = o.push 'x' line := by simp [step]
  have hopen : (o.push 'x' line).depth ≠ 0 := fun hzero => hdepth (h.depth.symm.trans hzero)
  have hsemicolon : (o.push 'x' line).step line ';' = (o.push 'x' line).push ';' line := by
    simp [step, hopen]
  rw [feedLine, statements_endLine, List.foldl_cons, hx, List.foldl_cons, hsemicolon]
  rfl

end

end Guideline.Source.Outline

namespace Guideline.SourceFile

open Source

theorem atLine_length {α : Type} (l : List α) : atLine l l.length = l.getLast? := by
  rw [List.getLast?_eq_getElem?]
  cases l <;> rfl

theorem length_code (t : List Char) : (parse t).code.length = (parse t).lineCount :=
  length_maskLinesFrom .code _

theorem length_directives (t : List Char) : (parse t).directives.length = (parse t).code.length :=
  length_directiveFlags false _

/-- The outline of all lines of a file. -/
def outline (f : SourceFile) : Outline :=
  Outline.feedLines {} 1 (f.code.zip f.directives)

/-- The outline of a file where `before` is all that has been read of its last line. -/
def outlineBefore (f : SourceFile) (before : List Char) : Outline :=
  before.foldl (fun o c => o.step f.lineCount c)
    (Outline.feedLines {} 1 (f.code.dropLast.zip f.directives.dropLast))

/-- The text is made of whole lines, the last of which is no directive and ends, but for blanks and
comments, in a closing brace that closes nothing. `before` is what the line has before it, masked. -/
structure EndsInStray (t before : List Char) : Prop where
  newline : t.getLast? = some '\n'
  notDirective : (parse t).isDirective (parse t).lineCount = false
  brace : ∃ after, (parse t).codeLine (parse t).lineCount = before ++ '}' :: after ∧
    ∀ c ∈ after, Text.isBlank c = true
  noBlock : ((parse t).outlineBefore before).stack = []
  /-- No literal or comment runs on. -/
  inCode : (parse t).regionAt ((parse t).lineCount + 1) = .code

namespace EndsInStray

variable {t before : List Char}

theorem getLast?_code (h : EndsInStray t before) : ∃ after,
    (parse t).code.getLast? = some (before ++ '}' :: after) ∧ ∀ c ∈ after, Text.isBlank c = true := by
  obtain ⟨after, hcode, hblank⟩ := h.brace
  refine ⟨after, ?_, hblank⟩
  rw [codeLine, ← length_code, atLine_length] at hcode
  cases hlast : (parse t).code.getLast? with
  | none => simp [hlast] at hcode
  | some code =>
    rw [hlast, Option.getD_some] at hcode
    rw [hcode]

theorem getLast?_directives (h : EndsInStray t before) :
    (parse t).directives.getLast? = some false := by
  have hflag := h.notDirective
  rw [isDirective, ← length_code, ← length_directives, atLine_length] at hflag
  cases hlast : (parse t).directives.getLast? with
  | none =>
    have hlength := length_directives t
    rw [List.getLast?_eq_none_iff.1 hlast, List.length_nil] at hlength
    obtain ⟨after, hcode, -⟩ := h.getLast?_code
    rw [List.eq_nil_of_length_eq_zero hlength.symm] at hcode
    cases hcode
  | some flag =>
    rw [hlast, Option.getD_some] at hflag
    rw [hflag]

theorem idle_outline (h : EndsInStray t before) :
    (parse t).outline.Idle ((parse t).outlineBefore before).depth := by
  obtain ⟨after, hcode, hblank⟩ := h.getLast?_code
  have hlength : (parse t).code.dropLast.length = (parse t).directives.dropLast.length := by
    rw [List.length_dropLast, List.length_dropLast, length_directives]
  have hpos : 0 < (parse t).code.length :=
    List.length_pos_of_mem (List.mem_of_getLast? hcode)
  have hline : 1 + ((parse t).code.dropLast.zip (parse t).directives.dropLast).length =
      (parse t).lineCount := by
    rw [List.length_zip, ← hlength, Nat.min_self, List.length_dropLast, ← length_code]
    omega
  rw [outline, ← List.dropLast_append_getLast? _ hcode,
    ← List.dropLast_append_getLast? _ h.getLast?_directives, List.zip_append hlength,
    Outline.feedLines_append, hline]
  exact Outline.idle_feedLine h.noBlock hblank

/-- The lines below are masked and marked as at the start of a file. -/
theorem outline_append (h : EndsInStray t before) (u : List Char) : (parse (t ++ u)).outline =
    (parse t).outline.feedLines (1 + (parse t).lineCount) ((parse u).code.zip (parse u).directives) := by
  have hcode : (parse (t ++ u)).code = (parse t).code ++ (parse u).code := by
    show maskLinesFrom .code (Text.lines (t ++ u)) = _
    rw [Text.lines_append (.inr h.newline), maskLinesFrom_append]
    have hregion : Source.regionAt .code (Text.lines t) (Text.lines t).length = .code := h.inCode
    rw [hregion]
    rfl
  have hdirectives : (parse (t ++ u)).directives = (parse t).directives ++ (parse u).directives := by
    show directiveFlags false (parse (t ++ u)).code = _
    rw [hcode]
    exact directiveFlags_append_of_getLast? h.getLast?_directives _
  rw [outline, hcode, hdirectives, List.zip_append (length_directives t).symm,
    Outline.feedLines_append, List.length_zip, length_directives, Nat.min_self, length_code]
  rfl

end EndsInStray

/-- Whatever comes below a stray closing brace is read as a file of its own, its lines counted on, if
and only if no parenthesis is open at the brace. -/
theorem statements_append_iff {t before : List Char} (h : EndsInStray t before) :
    (∀ u, (parse (t ++ u)).statements = (parse t).statements ++
        (parse u).statements.map (Statement.shift (parse t).lineCount)) ↔
      ((parse t).outlineBefore before).depth = 0 := by
  constructor
  · intro hall
    by_contra hdepth
    have hx : (parse ['x', ';']).statements.length = 1 := by
      decide +kernel
    have hnone : (parse (t ++ ['x', ';'])).statements = (parse t).statements := by
      show (parse (t ++ ['x', ';'])).outline.statements.toList = (parse t).outline.statements.toList
      rw [h.outline_append]
      exact congrArg Array.toList (h.idle_outline.statements_feedLine hdepth _)
    have hlength := congrArg List.length ((hall ['x', ';']).symm.trans hnone)
    rw [List.length_append, List.length_map, hx] at hlength
    omega
  · intro hdepth u
    have hidle := h.idle_outline
    rw [hdepth] at hidle
    show (parse (t ++ u)).outline.statements.toList = _
    rw [h.outline_append]
    exact ((hidle.follows (parse t).lineCount).feedLines 1 _).statements

/-- Behind `f() }` lines are read afresh, behind `f( }` they are not. -/
theorem statements_append_unclosed :
    (∀ u, (parse ("f() \x7d // end\n".toList ++ u)).statements =
        (parse "f() \x7d // end\n".toList).statements ++ (parse u).statements.map (Statement.shift 1)) ∧
      ¬ ∀ u, (parse ("f( \x7d\n".toList ++ u)).statements =
        (parse "f( \x7d\n".toList).statements ++ (parse u).statements.map (Statement.shift 1) := by
  have hclosed : EndsInStray "f() \x7d // end\n".toList "f() ".toList :=
    ⟨by decide +kernel, by decide +kernel, ⟨List.replicate 7 ' ', by decide +kernel,
      fun c hc => List.eq_of_mem_replicate hc ▸ rfl⟩, by decide +kernel, by decide +kernel⟩
  have hopen : EndsInStray "f( \x7d\n".toList "f( ".toList :=
    ⟨by decide +kernel, by decide +kernel, ⟨[], by decide +kernel, by simp⟩,
      by decide +kernel, by decide +kernel⟩
  exact ⟨(statements_append_iff hclosed).2 (by decide +kernel),
    fun hall => absurd ((statements_append_iff hopen).1 hall) (by decide +kernel)⟩

end Guideline.SourceFile
