import Guideline.Proofs.Source.BlockMatching

/-!
# Reading on as from the start

Nothing of what an outline has read so far bears on what it reads next but its open blocks, its
pending text and its parenthesis depth. So from a state where no block and no parenthesis is open
and only blanks are pending, lines are read as at the start of a file, only that they have other
numbers: the run from there and the run from the start stay in the relation `Outline.Follows`, step
by step (`Follows.step`) and over all lines (`Follows.feedLines`).
-/

namespace Guideline.Source

/-! ### Moving down -/

/-- The same character `n` lines further down. -/
def Located.shift (n : Nat) (l : Located) : Located :=
  { l with line := l.line + n }

/-- The same statement `n` lines further down. -/
def Statement.shift (n : Nat) (s : Statement) : Statement :=
  { s with located := s.located.map (Located.shift n) }

/-- The same block `n` lines further down. -/
def Block.shift (n : Nat) (b : Block) : Block :=
  { b with
    headerLine := b.headerLine + n
    openLine := b.openLine + n
    closeLine := b.closeLine.map (· + n) }

/-- The same open block `n` lines further down, in a list with `k` more blocks before it. -/
def OpenBlock.shift (n k : Nat) (b : OpenBlock) : OpenBlock :=
  { b with
    index := k + b.index
    interrupted := b.interrupted.map (Located.shift n) }

/-! ### Labels behind blanks -/

theorem labelLength?_append {blanks : List Char} (h : ∀ c ∈ blanks, Text.isBlank c = true)
    (cs : List Char) : labelLength? (blanks ++ cs) = (labelLength? cs).map (blanks.length + ·) := by
  have hle : ((cs.dropWhile Text.isBlank).dropWhile isIdentChar).length ≤ cs.length :=
    ((List.dropWhile_suffix _).trans (List.dropWhile_suffix _)).length_le
  simp only [labelLength?, List.dropWhile_append_of_pos h, List.length_append, Option.map_map]
  congr 1
  funext n
  simp only [Function.comp_apply]
  omega

theorem labelsLength_of_none {cs : List Char} (h : labelLength? cs = none) : labelsLength cs = 0 := by
  rw [labelsLength]
  split
  · next heq => cases h.symm.trans heq
  · rfl

theorem labelsLength_of_some {cs : List Char} {n : Nat} (h : labelLength? cs = some n) :
    labelsLength cs = n + labelsLength (cs.drop n) := by
  rw [labelsLength]
  split
  · next heq =>
    cases h.symm.trans heq
    rfl
  · next heq => cases h.symm.trans heq

theorem trimLocated_append {blanks : List Located} (h : ∀ l ∈ blanks, Text.isBlank l.char = true)
    (text : List Located) : trimLocated (blanks ++ text) = trimLocated text := by
  simp only [trimLocated, List.dropWhile_append_of_pos h]

/-- White space before a text changes neither its labels nor what they leave. -/
theorem stripLabels_append {blanks : List Located} (h : ∀ l ∈ blanks, Text.isBlank l.char = true)
    (text : List Located) : stripLabels (blanks ++ text) = stripLabels text := by
  have hblank : ∀ c ∈ chars blanks, Text.isBlank c = true := by
    simpa [chars] using h
  have hlength : (chars blanks).length = blanks.length := List.length_map _
  have hchars : chars (blanks ++ text) = chars blanks ++ chars text := List.map_append
  have hlabel := labelLength?_append hblank (chars text)
  rw [stripLabels, stripLabels, hchars]
  cases hfirst : labelLength? (chars text) with
  | none =>
    rw [hfirst] at hlabel
    rw [labelsLength_of_none hlabel, labelsLength_of_none hfirst]
    exact trimLocated_append h text
  | some n =>
    rw [hfirst] at hlabel
    rw [labelsLength_of_some hlabel, labelsLength_of_some hfirst, List.drop_length_add_append, hlength,
      Nat.add_assoc, List.drop_length_add_append]

theorem chars_map_shift (n : Nat) (text : List Located) :
    chars (text.map (Located.shift n)) = chars text := by
  rw [chars, List.map_map]
  rfl

theorem trimLocated_map_shift (n : Nat) (text : List Located) :
    trimLocated (text.map (Located.shift n)) = (trimLocated text).map (Located.shift n) := by
  have hblank : (fun l : Located => Text.isBlank l.char) ∘ Located.shift n =
      fun l : Located => Text.isBlank l.char := rfl
  simp only [trimLocated, List.dropWhile_map, ← List.map_reverse, hblank]

theorem stripLabels_map_shift (n : Nat) (text : List Located) :
    stripLabels (text.map (Located.shift n)) = (stripLabels text).map (Located.shift n) := by
  rw [stripLabels, stripLabels, chars_map_shift, ← List.map_drop, trimLocated_map_shift]

theorem modify_append_map {α β : Type} {shift : α → β} {f : α → α} {g : β → β}
    (h : ∀ a, g (shift a) = shift (f a)) (l : List β) (l' : List α) (i : Nat) :
    (l ++ l'.map shift).modify (l.length + i) g = l ++ (l'.modify i f).map shift := by
  rw [List.modify, List.modifyTailIdx_add, ← List.modify]
  congr 1
  refine List.ext_getElem? fun j => ?_
  simp only [List.getElem?_modify, List.getElem?_map]
  cases l'[j]? with
  | none => simp
  | some a => split <;> simp [h]

namespace Outline

/-- The outline `o'` holds what `base` holds and then, `n` lines further down, what `o` holds.
Blanks at the start of its pending text are left out of account. -/
structure Follows (base : Outline) (n : Nat) (o o' : Outline) : Prop where
  statements : o'.statements.toList =
    base.statements.toList ++ o.statements.toList.map (Statement.shift n)
  blocks : o'.blocks.toList = base.blocks.toList ++ o.blocks.toList.map (Block.shift n)
  strayCloses : o'.strayCloses.toList = base.strayCloses.toList ++ o.strayCloses.toList.map (· + n)
  stack : o'.stack = o.stack.map (OpenBlock.shift n base.blocks.size)
  pending : ∃ blanks, (∀ l ∈ blanks, Text.isBlank l.char = true) ∧
    o'.pending.toList = blanks ++ o.pending.toList.map (Located.shift n)
  depth : o'.depth = o.depth

/-- No block is open, `depth` parentheses are, and only blanks are pending. -/
structure Idle (depth : Nat) (o : Outline) : Prop where
  stack : o.stack = []
  depth : o.depth = depth
  pending : ∀ l ∈ o.pending.toList, Text.isBlank l.char = true

/-- Where nothing is open everything is still to come. -/
theorem Idle.follows {o : Outline} (h : o.Idle 0) (n : Nat) : o.Follows n {} o where
  statements := by simp
  blocks := by simp
  strayCloses := by simp
  stack := h.stack
  pending := ⟨o.pending.toList, h.pending, by simp⟩
  depth := h.depth

namespace Follows

variable {base o o' : Outline} {n : Nat}

theorem pendingText (h : base.Follows n o o') :
    o'.pendingText = o.pendingText.map (Located.shift n) := by
  obtain ⟨blanks, hblank, heq⟩ := h.pending
  rw [Outline.pendingText, Outline.pendingText, heq, stripLabels_append hblank, stripLabels_map_shift]

theorem scope (h : base.Follows n o o') : o'.scope = o.scope := by
  rw [Outline.scope, Outline.scope, h.stack]
  cases o.stack <;> rfl

theorem className (h : base.Follows n o o') : o'.className = o.className := by
  rw [Outline.className, Outline.className, h.stack, List.find?_map]
  have hkind : (fun b : OpenBlock => b.kind == .classBody) ∘ OpenBlock.shift n base.blocks.size =
      fun b : OpenBlock => b.kind == .classBody := rfl
  rw [hkind]
  cases o.stack.find? (fun b : OpenBlock => b.kind == .classBody) <;> rfl

theorem size_blocks (h : base.Follows n o o') : o'.blocks.size = base.blocks.size + o.blocks.size := by
  simpa using congrArg List.length h.blocks

theorem push (h : base.Follows n o o') (line : Nat) (c : Char) :
    base.Follows n (o.push c line) (o'.push c (line + n)) := by
  obtain ⟨blanks, hblank, heq⟩ := h.pending
  refine { h with pending := ⟨blanks, hblank, ?_⟩ }
  simp [Outline.push, heq, Located.shift]

theorem clear (h : base.Follows n o o') :
    base.Follows n { o with pending := #[] } { o' with pending := #[] } :=
  { h with pending := ⟨[], by simp, by simp⟩ }

theorem endStatement (h : base.Follows n o o') (ending : Ending) :
    base.Follows n (o.endStatement ending) (o'.endStatement ending) := by
  simp only [Outline.endStatement, h.pendingText, h.scope, h.className, List.isEmpty_map]
  split
  · exact h.clear
  · refine { h.clear with statements := ?_ }
    simp [h.statements, Statement.shift]

theorem withDepth (h : base.Follows n o o') (depth : Nat) :
    base.Follows n { o with depth := depth } { o' with depth := depth } :=
  { h with depth := rfl }

theorem openBlock (h : base.Follows n o o') (line : Nat) :
    base.Follows n (o.openBlock line) (o'.openBlock (line + n)) := by
  have hhead : (o'.pendingText.head?.map Located.line).getD (line + n) =
      (o.pendingText.head?.map Located.line).getD line + n := by
    rw [h.pendingText]
    cases o.pendingText <;> rfl
  have hended (kind : Scope) : base.Follows n
      (if kind = .initializer then { o with pending := #[] } else o.endStatement (.opens kind))
      (if kind = .initializer then { o' with pending := #[] } else o'.endStatement (.opens kind)) := by
    split
    · exact h.clear
    · exact h.endStatement _
  simp only [Outline.openBlock, hhead, h.scope]
  rw [h.pendingText, chars_map_shift]
  refine { hended _ with blocks := ?_, stack := ?_, depth := rfl }
  · simp [h.blocks, Block.shift]
  · simp only [h.stack, h.size_blocks, h.depth, List.map_cons, OpenBlock.shift]
    split <;> rfl

theorem closeBlock (h : base.Follows n o o') (line : Nat) :
    base.Follows n (o.closeBlock line) (o'.closeBlock (line + n)) := by
  have hstack := h.stack
  unfold Outline.closeBlock
  cases hs : o.stack with
  | nil =>
    rw [hs, List.map_nil] at hstack
    simp only [hstack]
    refine { h.clear with strayCloses := ?_, stack := rfl }
    simp [h.strayCloses]
  | cons b outer =>
    rw [hs, List.map_cons] at hstack
    simp only [hstack]
    have hended := h.endStatement .closes
    refine { hended with blocks := ?_, stack := rfl, pending := ⟨[], by simp, ?_⟩, depth := rfl }
    · simp only [blocks_endStatement, Array.toList_modify, h.blocks, OpenBlock.shift,
        ← Array.length_toList]
      refine modify_append_map (fun block => ?_) _ _ _
      rfl
    · by_cases hkind : b.kind = .initializer
      · simp [OpenBlock.shift, Located.shift, hkind]
      · simp [OpenBlock.shift, hkind]

/-- Both outlines do the same with a character. -/
theorem step (h : base.Follows n o o') (line : Nat) (c : Char) :
    base.Follows n (o.step line c) (o'.step (line + n) c) := by
  unfold Outline.step
  rw [h.depth]
  split_ifs
  · exact (h.withDepth _).push line c
  · exact (h.withDepth _).push line c
  · exact h.endStatement .semicolon
  · exact h.openBlock line
  · exact h.closeBlock line
  · exact h.push line c

/-- A blank at the end of a line goes to the blanks if there is nothing else pending. -/
theorem endLine (h : base.Follows n o o') (line : Nat) :
    base.Follows n (o.endLine line) (o'.endLine (line + n)) := by
  obtain ⟨blanks, hblank, heq⟩ := h.pending
  unfold Outline.endLine
  by_cases hempty : o.pending.isEmpty = true
  · have hnil : o.pending = #[] := Array.isEmpty_iff.1 hempty
    rw [if_pos hempty]
    split
    · exact h
    · refine { h with pending := ⟨blanks ++ [⟨' ', line + n⟩], ?_, ?_⟩ }
      · simpa [or_imp, forall_and] using ⟨hblank, by decide⟩
      · simp [Outline.push, heq, hnil]
  · have hempty' : ¬ o'.pending.isEmpty = true := by
      intro hnil
      rw [Array.isEmpty_iff.1 hnil] at heq
      exact hempty (by simpa using (List.append_eq_nil_iff.1 heq.symm).2)
    rw [if_neg hempty, if_neg hempty']
    exact h.push line ' '

theorem feedLine (h : base.Follows n o o') (line : Nat) (code : List Char) :
    base.Follows n (o.feedLine line code) (o'.feedLine (line + n) code) := by
  refine endLine ?_ line
  induction code generalizing o o' with
  | nil => exact h
  | cons c code ih => exact ih (h.step line c)

/-- Both outlines do the same with all lines to come. -/
theorem feedLines (h : base.Follows n o o') (line : Nat) (ls : List (List Char × Bool)) :
    base.Follows n (o.feedLines line ls) (o'.feedLines (line + n) ls) := by
  induction ls generalizing o o' line with
  | nil => exact h
  | cons l ls ih =>
    obtain ⟨code, isDirective⟩ := l
    rw [Outline.feedLines, Outline.feedLines, Nat.add_right_comm]
    cases isDirective with
    | false => exact ih (h.feedLine line code) _
    | true => exact ih h _

end Follows

end Outline

end Guideline.Source
