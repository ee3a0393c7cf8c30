import Guideline.Proofs.Source.BracedGroup
import Guideline.Proofs.Source.MaskTrace
import Guideline.Proofs.Text.Lines

/-!
# Text added at the end of a file

A file is read from its start to its end, and nothing that is read later changes what was read
before: lines, masked lines and statements are only added (`extends_parse_append`). This needs that
the added text starts a line of its own. Blocks are no part of it, since a brace further down may
close an open one.
-/

namespace Guideline.Source

namespace Outline

theorem feedLines_append (o : Outline) (line : Nat) (ls ls' : List (List Char × Bool)) :
    o.feedLines line (ls ++ ls') = (o.feedLines line ls).feedLines (line + ls.length) ls' := by
  induction ls generalizing o line with
  | nil => rfl
  | cons l ls ih =>
    rw [List.cons_append, feedLines, feedLines, ih, List.length_cons, Nat.add_assoc, Nat.add_comm 1]

end Outline

end Guideline.Source

namespace Guideline.SourceFile

open Source

theorem length_directiveFlags (continued : Bool) (ls : List (List Char)) :
    (directiveFlags continued ls).length = ls.length := by
  induction ls generalizing continued with
  | nil => rfl
  | cons l ls ih => rw [directiveFlags, List.length_cons, List.length_cons, ih]

theorem exists_directiveFlags_append (continued : Bool) (ls ls' : List (List Char)) :
    ∃ continued', directiveFlags continued (ls ++ ls') =
      directiveFlags continued ls ++ directiveFlags continued' ls' := by
  induction ls generalizing continued with
  | nil => exact ⟨continued, rfl⟩
  | cons l ls ih =>
    rw [List.cons_append, directiveFlags, directiveFlags]
    obtain ⟨continued', h⟩ := ih _
    exact ⟨continued', congrArg (_ :: ·) h⟩

/-- Only a directive line can be continued. -/
theorem directiveFlags_append_of_getLast? {continued : Bool} {ls : List (List Char)}
    (h : (directiveFlags continued ls).getLast? = some false) (ls' : List (List Char)) :
    directiveFlags continued (ls ++ ls') = directiveFlags continued ls ++ directiveFlags false ls' := by
  induction ls generalizing continued with
  | nil => cases h
  | cons l ls ih =>
    rw [directiveFlags] at h
    rw [List.cons_append, directiveFlags, directiveFlags]
    cases ls with
    | nil =>
      have hflag : (continued || (Text.trimStart l).head? == some '#') = false := Option.some.inj h
      rw [hflag]
      rfl
    | cons l' ls => exact congrArg (_ :: ·) (ih (by rwa [directiveFlags, List.getLast?_cons_cons] at h))

/-- The file `g` is the file `f` with more lines at its end. -/
structure Extends (f g : SourceFile) : Prop where
  raw : f.raw <+: g.raw
  code : f.code <+: g.code
  /-- Every line is masked. -/
  masked : f.code.length = f.raw.length
  statements : f.statements <+: g.statements

theorem extends_ofLines_append (ls ls' : List (List Char)) :
    (ofLines ls).Extends (ofLines (ls ++ ls')) := by
  let region := Source.regionAt .code ls ls.length
  have hmask := maskLinesFrom_append .code ls ls'
  obtain ⟨continued, hflags⟩ :=
    exists_directiveFlags_append false (maskLines ls) (maskLinesFrom region ls')
  have hcode : (ofLines (ls ++ ls')).code = (ofLines ls).code ++ maskLinesFrom region ls' := hmask
  have hdirectives : (ofLines (ls ++ ls')).directives =
      (ofLines ls).directives ++ directiveFlags continued (maskLinesFrom region ls') := by
    show directiveFlags false (maskLines (ls ++ ls')) = _
    rw [maskLines, hmask]
    exact hflags
  have hlength : (ofLines ls).code.length = (ofLines ls).directives.length :=
    (length_directiveFlags false (maskLines ls)).symm
  refine ⟨List.prefix_append _ _, ?_, length_maskLinesFrom .code ls, ?_⟩
  · rw [hcode]
    exact List.prefix_append _ _
  · show _ <+: (Outline.feedLines {} 1
      ((ofLines (ls ++ ls')).code.zip (ofLines (ls ++ ls')).directives)).statements.toList
    rw [hcode, hdirectives, List.zip_append hlength, Outline.feedLines_append,
      Outline.feedLines_eq_readAll _ _ (List.zip (maskLinesFrom region ls') _)]
    exact Outline.statements_isPrefix_readAll _ _

theorem extends_parse_append {t : List Char} (ht : t = [] ∨ t.getLast? = some '\n') (u : List Char) :
    (parse t).Extends (parse (t ++ u)) := by
  rw [parse, parse, Text.lines_append ht]
  exact extends_ofLines_append (Text.lines t) (Text.lines u)

namespace Extends

variable {f g : SourceFile} {n : Nat}

theorem lineCount_le (h : f.Extends g) : f.lineCount ≤ g.lineCount :=
  h.raw.length_le

theorem atLine_eq {α : Type} {l l' : List α} (h : l <+: l') (hn : n ≤ l.length) :
    atLine l' n = atLine l n := by
  cases n with
  | zero => rfl
  | succ n =>
    obtain ⟨more, rfl⟩ := h
    exact List.getElem?_append_left hn

theorem rawLine_eq (h : f.Extends g) (hn : n ≤ f.lineCount) : g.rawLine n = f.rawLine n := by
  rw [rawLine, rawLine, atLine_eq h.raw hn]

theorem codeLine_eq (h : f.Extends g) (hn : n ≤ f.lineCount) : g.codeLine n = f.codeLine n := by
  rw [codeLine, codeLine, atLine_eq h.code (h.masked.symm ▸ hn)]

theorem isCommentOnly_eq (h : f.Extends g) (hn : n ≤ f.lineCount) :
    g.isCommentOnly n = f.isCommentOnly n := by
  rw [isCommentOnly, isCommentOnly, h.rawLine_eq hn, h.codeLine_eq hn]

theorem number_le_of_mem_lines {line : Line} (h : line ∈ f.lines) : line.number ≤ f.lineCount := by
  obtain ⟨⟨⟨raw, code⟩, i⟩, hmem, rfl⟩ := List.mem_map.1 h
  have hlt := (List.mem_zipIdx' hmem).1
  rw [List.length_zip] at hlt
  exact Nat.le_trans hlt (Nat.min_le_left _ _)

theorem lines (h : f.Extends g) : f.lines <+: g.lines := by
  obtain ⟨raw, hraw⟩ := h.raw
  obtain ⟨code, hcode⟩ := h.code
  rw [SourceFile.lines, SourceFile.lines, ← hraw, ← hcode, List.zip_append h.masked.symm,
    List.zipIdx_append]
  exact (List.prefix_append _ _).map _

end Extends

end Guideline.SourceFile
