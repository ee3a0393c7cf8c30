import Guideline.Proofs.Source.BlockMatching

/-!
# Lines of statements

A character of code adds at most one statement, and its text is the pending one (`statements_step`).
So the text of every statement comes from lines of the file, and whatever offset is looked up in a
statement leads to one of them (`lineAt_of_mem_statements`).
-/

namespace Guideline.Source

namespace Outline

section

variable (o : Outline) (line : Nat)

/-- The statements are as before, or one is added that holds the pending text. -/
def AddsPending (o o' : Outline) : Prop :=
  o'.statements = o.statements ∨
    ∃ ending, o.pendingText ≠ [] ∧
      o'.statements = o.statements.push ⟨o.pendingText, ending, o.scope, o.className⟩

theorem addsPending_endStatement (ending : Ending) : o.AddsPending (o.endStatement ending) := by
  unfold endStatement
  by_cases hempty : o.pendingText.isEmpty = true
  · simp only [hempty, ↓reduceIte]
    exact .inl rfl
  · simp only [hempty, Bool.false_eq_true, ↓reduceIte]
    exact .inr ⟨ending, fun hnil => hempty (by simp [hnil]), rfl⟩

theorem addsPending_openBlock : o.AddsPending (o.openBlock line) := by
  simp only [openBlock]
  split_ifs
  · exact .inl rfl
  · exact o.addsPending_endStatement _

theorem addsPending_closeBlock : o.AddsPending (o.closeBlock line) := by
  unfold closeBlock
  cases o.stack with
  | nil => exact .inl rfl
  | cons b outer => exact o.addsPending_endStatement .closes

theorem statements_step (c : Char) : o.AddsPending (o.step line c) := by
  unfold step
  split_ifs
  · exact .inl rfl
  · exact .inl rfl
  · exact o.addsPending_endStatement .semicolon
  · exact o.addsPending_openBlock line
  · exact o.addsPending_closeBlock line
  · exact .inl rfl

theorem statements_endLine : (o.endLine line).statements = o.statements := by
  unfold endLine
  split_ifs <;> rfl

end

/-- Every statement has text, from the lines up to `n`. -/
def StatementsWithin (n : Nat) (o : Outline) : Prop :=
  ∀ s ∈ o.statements.toList, s.located ≠ [] ∧ IsWithin n s.located

namespace StatementsWithin

variable {o o' : Outline} {n : Nat}

theorem of_addsPending (hadds : o.AddsPending o') (hline : o.LineInv n) (h : o.StatementsWithin n) :
    o'.StatementsWithin n := by
  intro s hs
  rcases hadds with heq | ⟨ending, hne, heq⟩
  · exact h s (heq ▸ hs)
  · rw [heq, Array.toList_push] at hs
    rcases List.mem_append.1 hs with hs | hs
    · exact h s hs
    · rw [List.mem_singleton.1 hs]
      exact ⟨hne, hline.pendingText⟩

theorem feedLine (hn : 1 ≤ n) (hline : o.LineInv n) (h : o.StatementsWithin n) (code : List Char) :
    (o.feedLine n code).StatementsWithin n := by
  have hfold : (code.foldl (fun o c => o.step n c) o).StatementsWithin n := by
    induction code generalizing o with
    | nil => exact h
    | cons c code ih => exact ih (hline.step hn c) (h.of_addsPending (o.statements_step n c) hline)
  intro s hs
  rw [Outline.feedLine, statements_endLine] at hs
  exact hfold s hs

theorem mono {m : Nat} (hnm : n ≤ m) (h : o.StatementsWithin n) : o.StatementsWithin m :=
  fun s hs => ⟨(h s hs).1, (h s hs).2.mono hnm⟩

/-- The outline is about to read line `n`, so what it has comes from the lines before. -/
theorem feedLines (hline : o.LineInv n) (h : o.StatementsWithin n) (ls : List (List Char × Bool)) :
    (o.feedLines (n + 1) ls).StatementsWithin (n + ls.length) := by
  induction ls generalizing o n with
  | nil => exact h
  | cons l ls ih =>
    obtain ⟨code, isDirective⟩ := l
    have hline' : o.LineInv (n + 1) := hline.mono (Nat.le_succ n)
    have h' : o.StatementsWithin (n + 1) := h.mono (Nat.le_succ n)
    rw [Outline.feedLines, List.length_cons, Nat.add_comm ls.length, ← Nat.add_assoc]
    cases isDirective with
    | false => exact ih (hline'.feedLine (Nat.succ_pos n) code) (h'.feedLine (Nat.succ_pos n) hline' code)
    | true => exact ih hline' h'

end StatementsWithin

end Outline

/-- Whatever the offset, the line that is looked up is the line of a character of the statement. -/
theorem Statement.exists_lineAt_eq {s : Statement} (h : s.located ≠ []) (offset : Nat) :
    ∃ l ∈ s.located, s.lineAt offset = l.line := by
  have hne : lineMap s.located ≠ [] := by
    obtain ⟨l, rest, hl⟩ := List.exists_cons_of_ne_nil h
    have hsize := l.char.utf8Size_pos
    rw [hl, lineMap, List.flatMap_cons]
    intro hnil
    have hlen := congrArg List.length hnil
    simp at hlen
    omega
  have hmem : s.lineAt offset ∈ lineMap s.located := by
    cases hget : (lineMap s.located)[offset]? with
    | some n =>
      rw [lineAt, hget]
      exact List.mem_of_getElem? hget
    | none =>
      cases hlast : (lineMap s.located).getLast? with
      | some n =>
        rw [lineAt, hget, hlast]
        exact List.mem_of_getLast? hlast
      | none => exact absurd (List.getLast?_eq_none_iff.1 hlast) hne
  obtain ⟨l, hl, hline⟩ := List.mem_flatMap.1 hmem
  exact ⟨l, hl, (List.mem_replicate.1 hline).2⟩

end Guideline.Source

namespace Guideline.SourceFile

open Source Outline

theorem lineAt_of_mem_statements {content : List Char} {s : Statement}
    (hs : s ∈ (parse content).statements) (offset : Nat) :
    1 ≤ s.lineAt offset ∧ s.lineAt offset ≤ (parse content).lineCount := by
  have hempty : StatementsWithin 0 {} := by
    intro s hs
    simp at hs
  have hwithin := hempty.feedLines (LineInv.empty 0)
    ((parse content).code.zip (parse content).directives)
  obtain ⟨hne, htext⟩ := hwithin s hs
  obtain ⟨l, hl, hline⟩ := s.exists_lineAt_eq hne offset
  have hlen := length_zip_le content
  have hbounds := htext l hl
  rw [hline]
  omega

end Guideline.SourceFile
