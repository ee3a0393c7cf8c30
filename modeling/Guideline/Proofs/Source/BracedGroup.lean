import Guideline.Proofs.Source.StatementLine

/-!
# Braced groups

An outline is fed with the characters of lines of code and with the ends of these lines. Signals without a
brace change neither the open blocks nor the blocks there are. So reading signals with balanced braces keeps
all of this (`keeps_readAll_of_balanced`), and a group `{ ... }` around them is closed in the state it was opened
in: what its block put aside comes back, whatever happened inside (`readAll_braced`).
-/

namespace Guideline.Source

open Brace

/-- What an outline is fed with. -/
inductive Signal where
  | char (line : Nat) (c : Char)
  | lineEnd (line : Nat)
deriving DecidableEq, Repr

/-- The brace that a signal is. -/
def Signal.brace? : Signal → Option Brace
  | char line c =>
    if c = '{' then some (opening line) else if c = '}' then some (closing line) else none
  | lineEnd _ => none

def bracesIn (u : List Signal) : List Brace :=
  u.filterMap Signal.brace?

/-- The signals of one line of code. -/
def signalsOn (line : Nat) (code : List Char) : List Signal :=
  code.map (.char line) ++ [.lineEnd line]

/-- The signals of lines of masked code, the first of which has the number `line`; there are none on
directive lines. -/
def signalsFrom (line : Nat) : List (List Char × Bool) → List Signal
  | [] => []
  | (code, isDirective) :: rest =>
    (if isDirective then [] else signalsOn line code) ++ signalsFrom (line + 1) rest

/-- The character of a brace. -/
def Brace.char : Brace → Char
  | opening _ => '{'
  | closing _ => '}'

theorem Signal.eq_char_of_brace? {x : Signal} {b : Brace} (h : x.brace? = some b) : x = .char b.line b.char := by
  cases x with
  | lineEnd line => cases h
  | char line c =>
    rw [brace?] at h
    split_ifs at h with hopen hclose
    · cases h
      exact congrArg (Signal.char line) hopen
    · cases h
      exact congrArg (Signal.char line) hclose

theorem bracesIn_append (u v : List Signal) : bracesIn (u ++ v) = bracesIn u ++ bracesIn v :=
  List.filterMap_append

/-- Signals can be cut at each of their braces. -/
theorem exists_of_bracesIn_eq {w : List Signal} {u v : List Brace} {x : Brace}
    (h : bracesIn w = u ++ x :: v) :
    ∃ before y after, w = before ++ y :: after ∧ y.brace? = some x ∧ bracesIn before = u ∧
      bracesIn after = v := by
  obtain ⟨before, rest, rfl, hbefore, hrest⟩ := List.filterMap_eq_append_iff.1 h
  obtain ⟨mid, y, after, rfl, hmid, hy, hafter⟩ := List.filterMap_eq_cons_iff.1 hrest
  refine ⟨before ++ mid, y, after, by simp, hy, ?_, hafter⟩
  rw [bracesIn_append, bracesIn, hbefore, bracesIn, List.filterMap_eq_nil_iff.2 hmid, List.append_nil]

theorem bracesIn_signalsOn (line : Nat) (code : List Char) :
    bracesIn (signalsOn line code) = bracesOn line code := by
  rw [signalsOn, bracesIn_append, bracesIn, List.filterMap_map]
  exact List.append_nil _

theorem bracesIn_signalsFrom (line : Nat) (ls : List (List Char × Bool)) :
    bracesIn (signalsFrom line ls) = bracesFrom line ls := by
  induction ls generalizing line with
  | nil => rfl
  | cons l ls ih =>
    obtain ⟨code, isDirective⟩ := l
    rw [signalsFrom, bracesFrom, bracesIn_append, ih]
    cases isDirective with
    | false => exact congrArg (· ++ _) (bracesIn_signalsOn line code)
    | true => rfl

namespace Outline

def read (o : Outline) : Signal → Outline
  | .char line c => o.step line c
  | .lineEnd line => o.endLine line

def readAll (o : Outline) (u : List Signal) : Outline :=
  u.foldl read o

section

variable (o : Outline)

theorem readAll_append (u v : List Signal) : o.readAll (u ++ v) = (o.readAll u).readAll v :=
  List.foldl_append

theorem readAll_cons (x : Signal) (u : List Signal) : o.readAll (x :: u) = (o.read x).readAll u :=
  rfl

theorem readAll_append_singleton (u : List Signal) (x : Signal) :
    o.readAll (u ++ [x]) = (o.readAll u).read x :=
  o.readAll_append u [x]

theorem feedLine_eq_readAll (line : Nat) (code : List Char) :
    o.feedLine line code = o.readAll (signalsOn line code) := by
  have hchars : o.readAll (code.map (.char line)) = code.foldl (fun o c => o.step line c) o :=
    List.foldl_map
  rw [signalsOn, readAll_append, hchars]
  rfl

/-- Feeding lines is reading their signals. -/
theorem feedLines_eq_readAll (line : Nat) (ls : List (List Char × Bool)) :
    o.feedLines line ls = o.readAll (signalsFrom line ls) := by
  induction ls generalizing o line with
  | nil => rfl
  | cons l ls ih =>
    obtain ⟨code, isDirective⟩ := l
    rw [feedLines, signalsFrom, readAll_append, ih]
    cases isDirective with
    | false => exact congrArg (readAll · _) (o.feedLine_eq_readAll line code)
    | true => rfl

theorem read_opening (line : Nat) : o.read (.char line '{') = o.openBlock line :=
  o.step_opening line

theorem read_closing (line : Nat) : o.read (.char line '}') = o.closeBlock line :=
  o.step_closing line

theorem step_of_ne (line : Nat) {c : Char} (hopen : c ≠ '{') (hclose : c ≠ '}') :
    (o.step line c).stack = o.stack ∧ (o.step line c).blocks = o.blocks ∧
      (o.step line c).strayCloses = o.strayCloses := by
  unfold step
  split_ifs
  · exact ⟨rfl, rfl, rfl⟩
  · exact ⟨rfl, rfl, rfl⟩
  · exact ⟨stack_endStatement o _, blocks_endStatement o _, strayCloses_endStatement o _⟩
  · exact ⟨rfl, rfl, rfl⟩

theorem read_of_brace?_eq_none {x : Signal} (h : x.brace? = none) :
    (o.read x).stack = o.stack ∧ (o.read x).blocks = o.blocks ∧
      (o.read x).strayCloses = o.strayCloses := by
  cases x with
  | char line c =>
    rw [Signal.brace?] at h
    split_ifs at h with hopen hclose
    exact o.step_of_ne line hopen hclose
  | lineEnd line =>
    show (o.endLine line).stack = _ ∧ (o.endLine line).blocks = _ ∧ (o.endLine line).strayCloses = _
    unfold endLine
    split_ifs
    · exact ⟨rfl, rfl, rfl⟩
    · exact ⟨rfl, rfl, rfl⟩

end

theorem AddsPending.isPrefix {o o' : Outline} (h : o.AddsPending o') :
    o.statements.toList <+: o'.statements.toList := by
  rcases h with heq | ⟨ending, -, heq⟩
  · simp [heq]
  · rw [heq, Array.toList_push]
    exact List.prefix_append _ _

theorem addsPending_read (o : Outline) (x : Signal) : o.AddsPending (o.read x) := by
  cases x with
  | char line c => exact o.statements_step line c
  | lineEnd line => exact .inl (o.statements_endLine line)

theorem statements_isPrefix_readAll (o : Outline) (u : List Signal) :
    o.statements.toList <+: (o.readAll u).statements.toList := by
  induction u generalizing o with
  | nil => exact List.prefix_refl _
  | cons x u ih => exact (o.addsPending_read x).isPrefix.trans (ih (o.read x))

/-- The open blocks are the same, and to statements and blocks others are only added. -/
structure Keeps (o o' : Outline) : Prop where
  stack : o'.stack = o.stack
  statements : o.statements.toList <+: o'.statements.toList
  blocks : o.blocks.toList <+: o'.blocks.toList
  strayCloses : o'.strayCloses = o.strayCloses

theorem Keeps.refl (o : Outline) : o.Keeps o :=
  ⟨rfl, List.prefix_refl _, List.prefix_refl _, rfl⟩

theorem Keeps.trans {o o' o'' : Outline} (h : o.Keeps o') (h' : o'.Keeps o'') : o.Keeps o'' :=
  ⟨h'.stack.trans h.stack, h.statements.trans h'.statements, h.blocks.trans h'.blocks,
    h'.strayCloses.trans h.strayCloses⟩

theorem keeps_read_of_brace?_eq_none (o : Outline) {x : Signal} (h : x.brace? = none) : o.Keeps (o.read x) := by
  obtain ⟨hstack, hblocks, hstrays⟩ := o.read_of_brace?_eq_none h
  exact ⟨hstack, (o.addsPending_read x).isPrefix, by simp [hblocks], hstrays⟩

theorem keeps_readAll_of_bracesIn_eq_nil (o : Outline) {u : List Signal} (h : bracesIn u = []) :
    o.Keeps (o.readAll u) := by
  induction u generalizing o with
  | nil => exact .refl o
  | cons x u ih =>
    have hnone := List.filterMap_eq_nil_iff.1 h
    have hx := o.keeps_read_of_brace?_eq_none (hnone x (by simp))
    exact hx.trans (ih _ (List.filterMap_eq_nil_iff.2 fun y hy => hnone y (by simp [hy])))

/-- `block` is what an opening brace adds to the blocks, and `entry` what it puts aside. -/
structure Opens (o : Outline) (line : Nat) (block : Block) (entry : OpenBlock) : Prop where
  blocks : (o.openBlock line).blocks = o.blocks.push block
  stack : (o.openBlock line).stack = entry :: o.stack
  kind : block.kind = o.scope.ofHead (chars o.pendingText)
  openLine : block.openLine = line
  index : entry.index = o.blocks.size
  entry_kind : entry.kind = block.kind
  entry_name : entry.name = block.name
  outerDepth : entry.outerDepth = o.depth
  interrupted : entry.interrupted = if block.kind = .initializer then o.pendingText else []

theorem exists_opens (o : Outline) (line : Nat) : ∃ block entry, o.Opens line block entry :=
  ⟨_, _, rfl, rfl, rfl, rfl, rfl, rfl, rfl, rfl, rfl⟩

/-- What is left of the open block when it is closed. -/
theorem depth_closeBlock_of_cons {o : Outline} {b : OpenBlock} {outer : List OpenBlock}
    (h : o.stack = b :: outer) (line : Nat) : (o.closeBlock line).depth = b.outerDepth ∧
      (o.closeBlock line).pending.toList =
        if b.kind = .initializer then b.interrupted ++ [⟨'{', line⟩, ⟨'}', line⟩] else [] := by
  rw [closeBlock, h]
  refine ⟨rfl, ?_⟩
  show (if _ then _ else _ : Array Located).toList = _
  split_ifs
  · rfl
  · rfl

/-- A group has left the outline `o` as it was but for its own statements and blocks, the first of which is
the group itself, and for the pending text. -/
structure Passes (o : Outline) (opened closed : Nat) (o' : Outline) : Prop where
  keeps : o.Keeps o'
  depth : o'.depth = o.depth
  block : ∃ b, o'.blocks[o.blocks.size]? = some b ∧ b.openLine = opened ∧ b.closeLine = some closed ∧
    b.kind = o.scope.ofHead (chars o.pendingText) ∧
    o'.pending.toList =
      if b.kind = .initializer then o.pendingText ++ [⟨'{', closed⟩, ⟨'}', closed⟩] else []

/-- Closing what was opened, after signals that keep it. -/
theorem passes_of_keeps (o : Outline) (a b : Nat) {inner : Outline} (h : (o.openBlock a).Keeps inner) :
    o.Passes a b (inner.closeBlock b) := by
  obtain ⟨block, entry, hopens⟩ := o.exists_opens a
  have hstack : inner.stack = entry :: o.stack := h.stack.trans hopens.stack
  obtain ⟨hblocks, houter, hstrays⟩ := closeBlock_of_cons hstack b
  obtain ⟨hdepth, hpending⟩ := depth_closeBlock_of_cons hstack b
  -- The group's block stands behind those that were there.
  obtain ⟨more, hmore⟩ := h.blocks
  have hclosed : (inner.closeBlock b).blocks.toList =
      o.blocks.toList ++ { block with closeLine := some b } :: more := by
    rw [hblocks, Array.toList_modify, ← hmore, hopens.blocks, hopens.index, Array.toList_push,
      List.append_assoc, ← Array.length_toList, ← Nat.add_zero o.blocks.toList.length, List.modify,
      List.modifyTailIdx_add]
    rfl
  refine ⟨⟨houter, ?_, ?_, ?_⟩, hdepth.trans hopens.outerDepth, { block with closeLine := some b }, ?_,
    hopens.openLine, rfl, hopens.kind, ?_⟩
  · exact ((o.addsPending_openBlock a).isPrefix.trans h.statements).trans (inner.addsPending_closeBlock b).isPrefix
  · rw [hclosed]
    exact List.prefix_append _ _
  · rw [hstrays, h.strayCloses, strayCloses_openBlock]
  · rw [← Array.getElem?_toList, hclosed, ← Array.length_toList]
    simp
  · rw [hpending, hopens.entry_kind, hopens.interrupted]
    split_ifs
    · rfl
    · rfl

/-- Signals with balanced braces keep what is open. The induction is on the braces: what stands between two
outermost groups has no brace. -/
theorem keeps_readAll_of_balanced {w : List Brace} (h : Balanced w) {u : List Signal} (hu : bracesIn u = w)
    (o : Outline) : o.Keeps (o.readAll u) := by
  induction h generalizing u o with
  | nil => exact o.keeps_readAll_of_bracesIn_eq_nil hu
  | @wrap a b p q _ _ ihp ihq =>
    obtain ⟨before, x, rest, rfl, hx, hbefore, hrest⟩ := exists_of_bracesIn_eq (u := []) hu
    obtain ⟨inside, y, after, rfl, hy, hinside, hafter⟩ := exists_of_bracesIn_eq hrest
    obtain rfl := Signal.eq_char_of_brace? hx
    obtain rfl := Signal.eq_char_of_brace? hy
    show o.Keeps (o.readAll (before ++ .char a '{' :: (inside ++ .char b '}' :: after)))
    rw [readAll_append, readAll_cons, read_opening, readAll_append, readAll_cons, read_closing]
    have houter := o.keeps_readAll_of_bracesIn_eq_nil hbefore
    have hgroup := (o.readAll before).passes_of_keeps a b (ihp hinside _)
    exact houter.trans (hgroup.keeps.trans (ihq hafter _))

/-- A braced group, over any number of lines, is opaque to the statement around it, if the braces in it are
balanced: the open blocks and parentheses are what they were, and so are the statements and blocks before. The
text that was pending is gone, unless the group is an initializer: then it is there without its labels and the
blanks around it, and `{}` is added to it on the line of the closing brace. -/
theorem readAll_braced (o : Outline) {u : List Signal} (hu : Balanced (bracesIn u)) (a b : Nat) :
    o.Passes a b (o.readAll (.char a '{' :: (u ++ [.char b '}']))) := by
  rw [readAll_cons, read_opening, readAll_append, readAll_cons, read_closing]
  exact o.passes_of_keeps a b (keeps_readAll_of_balanced hu rfl _)

/-- The outline within an enumeration, behind a label and an open parenthesis. -/
def atArgument : Outline :=
  readAll {} ("enum \x7b public: A = f(".toList.map (.char 1))

/-- Two lines that open two parentheses, close one in a block of its own and end a statement. -/
def argumentLines : List Signal :=
  signalsOn 1 " a; ((b".toList ++ signalsOn 2 "\x7b c) \x7d d".toList

theorem readAll_braced_argumentLines :
    Balanced (bracesIn argumentLines) ∧
      atArgument.Passes 1 3 (atArgument.readAll (.char 1 '{' :: (argumentLines ++ [.char 3 '}']))) ∧
      (atArgument.readAll (.char 1 '{' :: (argumentLines ++ [.char 3 '}']))).depth = 1 ∧
      (atArgument.readAll (.char 1 '{' :: (argumentLines ++ [.char 3 '}']))).pending.toList =
        "A = f(".toList.map (⟨·, 1⟩) ++ [⟨'{', 3⟩, ⟨'}', 3⟩] := by
  have hbraces : bracesIn argumentLines = [opening 2, closing 2] := by decide +kernel
  have hbalanced : Balanced (bracesIn argumentLines) := by
    rw [hbraces]
    exact .wrap .nil .nil
  exact ⟨hbalanced, readAll_braced atArgument hbalanced 1 3, by decide +kernel, by decide +kernel⟩

end Outline

end Guideline.Source

namespace Guideline

/-- What the outline of a file is read from. -/
def SourceFile.signals (f : SourceFile) : List Source.Signal :=
  Source.signalsFrom 1 (f.code.zip f.directives)

end Guideline
