import Guideline.Proofs.Source.BracedGroup
import Guideline.Proofs.Source.LabelBytes
import Mathlib.Data.List.DropRight

/-!
# Reading statements with a text and a map of its bytes

`Builder` reads the outline of a file like `Outline`, but keeps the pending text and the lines of its
bytes in two buffers that are cut by byte positions, and looks up open blocks by their index. Every cut
and every lookup fails out of range. Whatever it is fed, a builder never fails and stays in step with the
outline (`run?_eq`): each buffer has one line for each byte of its text, so that a cut of the text is a cut
of the lines (`take?_eq`), and an open block is found at its index (`Refers`).
-/

namespace Guideline.Source

/-! ### Buffers -/

/-- A text and the lines of its bytes, side by side. -/
structure Buffer where
  text : List Char := []
  lines : List Nat := []
deriving DecidableEq, Repr

namespace Buffer

/-- There is one line for each byte of the text. -/
def Aligned (b : Buffer) : Prop :=
  b.lines.length = Text.byteLength b.text

instance (b : Buffer) : Decidable b.Aligned :=
  inferInstanceAs (Decidable (b.lines.length = Text.byteLength b.text))

def push (b : Buffer) (c : Char) (line : Nat) : Buffer :=
  ⟨b.text ++ [c], b.lines ++ List.replicate c.utf8Size line⟩

/-- The lines from one byte position to another. Fails if there are not as many. -/
def slice? (lines : List Nat) (start stop : Nat) : Option (List Nat) :=
  if start ≤ stop ∧ stop ≤ lines.length then some ((lines.drop start).take (stop - start)) else none

/-- What a statement holds of the buffer: the text without leading labels and blanks around it, and its
lines. -/
def take? (b : Buffer) : Option Buffer := do
  let start ← labelEnd? b.text
  let parts ← Text.splitBytes? start b.text
  let body := Text.trimEnd parts.2
  let text := Text.trimStart body
  let first := start + (Text.byteLength body - Text.byteLength text)
  if text.isEmpty then pure {}
  else (slice? b.lines first (first + Text.byteLength text)).map fun lines => ⟨text, lines⟩

theorem slice?_of_le {lines : List Nat} {start n : Nat} (h : start + n ≤ lines.length) :
    slice? lines start (start + n) = some ((lines.drop start).take n) := by
  rw [slice?, if_pos ⟨Nat.le_add_right start n, h⟩, Nat.add_sub_cancel_left]

def labels (b : Buffer) : List Char :=
  b.text.take (labelsLength b.text)

/-- The text behind the labels, without the blanks at its end. -/
def body (b : Buffer) : List Char :=
  Text.trimEnd (b.text.drop (labelsLength b.text))

theorem byteLength_le (b : Buffer) :
    Text.byteLength (b.labels ++ b.body.takeWhile Text.isBlank) +
      Text.byteLength (b.body.dropWhile Text.isBlank) ≤ Text.byteLength b.text := by
  obtain ⟨z, hz⟩ : b.body <+: b.text.drop (labelsLength b.text) := List.rdropWhile_prefix _ _
  have htext : b.text = b.labels ++ (b.body ++ z) := by
    rw [hz]
    exact (List.take_append_drop _ _).symm
  have hbody : b.body = b.body.takeWhile Text.isBlank ++ b.body.dropWhile Text.isBlank :=
    List.takeWhile_append_dropWhile.symm
  have hlength := congrArg Text.byteLength htext
  rw [hbody] at hlength
  simp only [Text.byteLength_append] at hlength ⊢
  omega

/-- Where every byte has its line, neither the text nor the lines are cut out of range. -/
theorem take?_eq {b : Buffer} (h : b.Aligned) :
    b.take? = some ⟨b.body.dropWhile Text.isBlank,
      (b.lines.drop (Text.byteLength (b.labels ++ b.body.takeWhile Text.isBlank))).take
        (Text.byteLength (b.body.dropWhile Text.isBlank))⟩ := by
  have hsplit : Text.splitBytes? (Text.byteLength b.labels) b.text =
      some (b.labels, b.text.drop (labelsLength b.text)) := by
    have := Text.splitBytes?_append b.labels (b.text.drop (labelsLength b.text))
    rwa [labels, List.take_append_drop] at this
  have hlead : Text.byteLength b.body - Text.byteLength (Text.trimStart b.body) =
      Text.byteLength (b.body.takeWhile Text.isBlank) := by
    have := Text.byteLength_append (b.body.takeWhile Text.isBlank) (Text.trimStart b.body)
    rw [Text.trimStart, List.takeWhile_append_dropWhile] at this
    rw [Text.trimStart]
    omega
  have hle := b.byteLength_le
  rw [Text.byteLength_append, ← h] at hle
  have htake : b.take? = if (b.body.dropWhile Text.isBlank).isEmpty then some {}
      else (slice? b.lines (Text.byteLength b.labels + Text.byteLength (b.body.takeWhile Text.isBlank))
        (Text.byteLength b.labels + Text.byteLength (b.body.takeWhile Text.isBlank) +
          Text.byteLength (b.body.dropWhile Text.isBlank))).map
        fun lines => ⟨b.body.dropWhile Text.isBlank, lines⟩ := by
    rw [← hlead]
    simp only [take?, labelEnd?_eq, Option.bind_eq_bind, Option.bind_some]
    rw [← labels, hsplit]
    rfl
  rw [htake, slice?_of_le hle, Text.byteLength_append]
  split_ifs with hempty
  · rw [List.isEmpty_iff.1 hempty]
    rfl
  · rfl

theorem Aligned.take? {b : Buffer} (h : b.Aligned) : ∃ taken, b.take? = some taken ∧ taken.Aligned := by
  refine ⟨_, take?_eq h, ?_⟩
  have hle := b.byteLength_le
  rw [← h] at hle
  refine List.length_take_of_le ?_
  rw [List.length_drop]
  omega

/-- The buffer that holds located text. -/
def ofLocated (text : List Located) : Buffer :=
  ⟨chars text, lineMap text⟩

theorem aligned_ofLocated (text : List Located) : (ofLocated text).Aligned :=
  length_lineMap text

theorem push_ofLocated (text : List Located) (c : Char) (line : Nat) :
    (ofLocated text).push c line = ofLocated (text ++ [⟨c, line⟩]) := by
  simp [push, ofLocated, chars, lineMap]

/-- Blanks can be taken from either end first. -/
theorem dropWhile_rdropWhile {α : Type} (p : α → Bool) (l : List α) :
    (l.rdropWhile p).dropWhile p = (l.dropWhile p).rdropWhile p := by
  induction l using List.reverseRecOn with
  | nil => rfl
  | append_singleton l x ih =>
    by_cases hx : p x = true
    · rw [List.rdropWhile_concat_pos p l x hx, ih, List.dropWhile_append]
      split_ifs with hempty
      · rw [List.isEmpty_iff.1 hempty, List.dropWhile_cons_of_pos hx]
        rfl
      · rw [List.rdropWhile_concat_pos p _ x hx]
    · rw [List.rdropWhile_concat_neg p l x hx, List.dropWhile_append]
      split_ifs with hempty
      · rw [List.dropWhile_cons_of_neg hx, List.rdropWhile_singleton, if_neg hx]
      · rw [List.rdropWhile_concat_neg p _ x hx]

/-- The lines of a part of located text are the part of its lines at the same bytes. -/
theorem slice_lineMap (a b c : List Located) :
    ((lineMap (a ++ b ++ c)).drop (Text.byteLength (chars a))).take (Text.byteLength (chars b)) = lineMap b := by
  rw [List.append_assoc, lineMap_append, lineMap_append, ← length_lineMap a, ← length_lineMap b, List.drop_left,
    List.take_left]

theorem take?_ofLocated (text : List Located) : (ofLocated text).take? = some (ofLocated (stripLabels text)) := by
  let blank := fun l : Located => Text.isBlank l.char
  let rest := text.drop (labelsLength (chars text))
  let body := rest.rdropWhile blank
  obtain ⟨z, hz⟩ : body <+: rest := List.rdropWhile_prefix _ _
  have hlabels : (ofLocated text).labels = chars (text.take (labelsLength (chars text))) := List.map_take.symm
  have hbody : (ofLocated text).body = chars body := by
    rw [Buffer.body, Text.trimEnd]
    simp only [ofLocated, chars, ← List.map_drop, ← List.map_reverse, List.dropWhile_map]
    rfl
  have hstrip : body.dropWhile blank = stripLabels text := dropWhile_rdropWhile blank rest
  have htext : text = (text.take (labelsLength (chars text)) ++ body.takeWhile blank) ++ stripLabels text ++ z := by
    rw [← hstrip, List.append_assoc _ (body.takeWhile blank), List.takeWhile_append_dropWhile, List.append_assoc,
      hz, List.take_append_drop]
  have hlead : (chars body).takeWhile Text.isBlank = chars (body.takeWhile blank) := by
    rw [chars, List.takeWhile_map]
    rfl
  have hcore : (chars body).dropWhile Text.isBlank = chars (stripLabels text) := by
    rw [← hstrip, chars, List.dropWhile_map]
    rfl
  have hlines := slice_lineMap (text.take (labelsLength (chars text)) ++ body.takeWhile blank) (stripLabels text) z
  rw [← htext, show chars (_ ++ body.takeWhile blank) = chars _ ++ chars _ from List.map_append] at hlines
  rw [take?_eq (aligned_ofLocated text), hlabels, hbody, hlead, hcore]
  exact congrArg (fun lines => some (Buffer.mk (chars (stripLabels text)) lines)) hlines

end Buffer

/-! ### The builder -/

/-- A statement with the lines of its bytes. -/
structure BuiltStatement where
  text : List Char
  lines : List Nat
  ending : Ending
  scope : Scope
  className : Option String
deriving DecidableEq, Repr

/-- An open block: where it is in the list of blocks, and what was set aside when it was opened. -/
structure Frame where
  block : Nat
  outerDepth : Nat
  saved : Buffer
deriving DecidableEq, Repr

structure Builder where
  statements : Array BuiltStatement := #[]
  blocks : Array Block := #[]
  /-- The open blocks, innermost first. -/
  stack : List Frame := []
  strayCloses : Array Nat := #[]
  buffer : Buffer := {}
  depth : Nat := 0
deriving Repr

namespace Builder

/-- The pending text and every text that was set aside have one line for each byte. -/
structure Aligned (b : Builder) : Prop where
  buffer : b.buffer.Aligned
  saved : ∀ f ∈ b.stack, f.saved.Aligned

def push (b : Builder) (c : Char) (line : Nat) : Builder :=
  { b with buffer := b.buffer.push c line }

/-- The kind of the innermost open block. Fails if there is no block at its index. -/
def scope? (b : Builder) : Option Scope :=
  match b.stack with
  | [] => some .file
  | f :: _ => b.blocks[f.block]?.map (·.kind)

/-- The name of the innermost open class. Fails if there is no block at an index on the way. -/
def classNameIn? (blocks : Array Block) : List Frame → Option (Option String)
  | [] => some none
  | f :: outer => do
    let block ← blocks[f.block]?
    if block.kind = .classBody then pure block.name else classNameIn? blocks outer

def endStatement? (b : Builder) (ending : Ending) : Option Builder := do
  let taken ← b.buffer.take?
  if taken.text.isEmpty then pure { b with buffer := {} }
  else
    let scope ← b.scope?
    let className ← classNameIn? b.blocks b.stack
    pure { b with
      statements := b.statements.push ⟨taken.text, taken.lines, ending, scope, className⟩
      buffer := {} }

/-- An opening brace. -/
def openBlock? (b : Builder) (line : Nat) : Option Builder := do
  let scope ← b.scope?
  let head ← b.buffer.take?
  let kind := scope.ofHead head.text
  let name := Outline.blockName kind head.text
  let statements ←
    if kind = .initializer || head.text.isEmpty then some b.statements
    else (classNameIn? b.blocks b.stack).map fun className =>
      b.statements.push ⟨head.text, head.lines, .opens kind, scope, className⟩
  pure { b with
    statements
    blocks := b.blocks.push ⟨kind, name, head.lines.head?.getD line, line, none⟩
    stack := ⟨b.blocks.size, b.depth, if kind = .initializer then head else {}⟩ :: b.stack
    buffer := {}
    depth := 0 }

/-- A closing brace. One that closes nothing drops the pending text. -/
def closeBlock? (b : Builder) (line : Nat) : Option Builder :=
  match b.stack with
  | [] => some { b with strayCloses := b.strayCloses.push line, buffer := {} }
  | f :: outer => do
    let block ← b.blocks[f.block]?
    let ended ← b.endStatement? .closes
    pure { ended with
      blocks := ended.blocks.modify f.block fun block => { block with closeLine := some line }
      stack := outer
      depth := f.outerDepth
      buffer := if block.kind = .initializer then (f.saved.push '{' line).push '}' line else ended.buffer }

/-- Reads one character of masked code. -/
def step? (b : Builder) (line : Nat) (c : Char) : Option Builder :=
  if c = '(' then some ({ b with depth := b.depth + 1 }.push c line)
  else if c = ')' then some ({ b with depth := b.depth - 1 }.push c line)
  else if c = ';' && b.depth == 0 then b.endStatement? .semicolon
  else if c = '{' then b.openBlock? line
  else if c = '}' then b.closeBlock? line
  else some (b.push c line)

def feed? (b : Builder) : Signal → Option Builder
  | .char line c => b.step? line c
  | .lineEnd line => if b.buffer.text.isEmpty then some b else some (b.push ' ' line)

/-- What a builder is after all it was fed. -/
def run? (fed : List Signal) : Option Builder :=
  fed.foldlM feed? {}

end Builder

/-! ### In step with the outline -/

def BuiltStatement.ofStatement (s : Statement) : BuiltStatement :=
  ⟨s.text, lineMap s.located, s.ending, s.scope, s.className⟩

def Frame.ofOpen (f : OpenBlock) : Frame :=
  ⟨f.index, f.outerDepth, .ofLocated f.interrupted⟩

/-- The builder in the state of an outline. -/
def Builder.ofOutline (o : Outline) : Builder where
  statements := o.statements.map .ofStatement
  blocks := o.blocks
  stack := o.stack.map .ofOpen
  strayCloses := o.strayCloses
  buffer := .ofLocated o.pending.toList
  depth := o.depth

theorem Builder.aligned_ofOutline (o : Outline) : (ofOutline o).Aligned := by
  refine ⟨Buffer.aligned_ofLocated _, fun f hf => ?_⟩
  obtain ⟨b, -, rfl⟩ := List.mem_map.1 hf
  exact Buffer.aligned_ofLocated _

namespace Outline

/-- An open block is at its index in the list of blocks. -/
def Refers (o : Outline) : Prop :=
  ∀ f ∈ o.stack, ∃ b, o.blocks[f.index]? = some b ∧ b.kind = f.kind ∧ b.name = f.name

variable {o : Outline}

theorem Refers.of_eq {o' : Outline} (hblocks : o'.blocks = o.blocks) (hstack : o'.stack = o.stack)
    (h : o.Refers) : o'.Refers := by
  rw [Refers, hblocks, hstack]
  exact h

theorem Refers.endStatement (h : o.Refers) (ending : Ending) : (o.endStatement ending).Refers :=
  h.of_eq (blocks_endStatement o ending) (stack_endStatement o ending)

theorem Refers.openBlock (h : o.Refers) (line : Nat) : (o.openBlock line).Refers := by
  intro f hf
  rcases List.mem_cons.1 hf with rfl | hf
  · exact ⟨_, Array.getElem?_push_size, rfl, rfl⟩
  · obtain ⟨b, hb, hkind, hname⟩ := h f hf
    refine ⟨b, ?_, hkind, hname⟩
    have hlt := (Array.getElem?_eq_some_iff.1 hb).1
    exact (Array.getElem?_push_lt hlt).trans ((Array.getElem?_eq_getElem hlt).symm.trans hb)

theorem Refers.closeBlock (h : o.Refers) (line : Nat) : (o.closeBlock line).Refers := by
  unfold Outline.closeBlock
  split
  · exact h.of_eq rfl rfl
  · rename_i g outer hstack
    intro f hf
    obtain ⟨b, hb, hkind, hname⟩ := h f (hstack ▸ List.mem_cons_of_mem g hf)
    simp only [blocks_endStatement, Array.getElem?_modify, hb]
    split_ifs
    · exact ⟨_, rfl, hkind, hname⟩
    · exact ⟨b, rfl, hkind, hname⟩

theorem Refers.read (h : o.Refers) (x : Signal) : (o.read x).Refers := by
  cases x with
  | char line c =>
    simp only [Outline.read, step]
    split_ifs
    · exact h.of_eq rfl rfl
    · exact h.of_eq rfl rfl
    · exact h.endStatement .semicolon
    · exact h.openBlock line
    · exact h.closeBlock line
    · exact h.of_eq rfl rfl
  | lineEnd line =>
    simp only [Outline.read, endLine]
    split_ifs
    · exact h
    · exact h.of_eq rfl rfl

end Outline

namespace Builder

variable {o : Outline}

theorem push_ofOutline (o : Outline) (c : Char) (line : Nat) :
    (ofOutline o).push c line = ofOutline (o.push c line) := by
  simp [push, ofOutline, Outline.push, Buffer.push_ofLocated]

theorem scope?_ofOutline (h : o.Refers) : (ofOutline o).scope? = some o.scope := by
  rw [scope?, ofOutline, Outline.scope]
  cases hstack : o.stack with
  | nil => rfl
  | cons f outer =>
    obtain ⟨b, hb, hkind, -⟩ := h f (by rw [hstack]; exact List.mem_cons_self)
    simp [Frame.ofOpen, hb, hkind]

theorem classNameIn?_ofOutline (h : o.Refers) :
    classNameIn? (ofOutline o).blocks (ofOutline o).stack = some o.className := by
  have hstack : ∀ stack : List OpenBlock, (∀ f ∈ stack, f ∈ o.stack) →
      classNameIn? o.blocks (stack.map .ofOpen) =
        some ((stack.find? (·.kind == .classBody)).bind (·.name)) := by
    intro stack hstack
    induction stack with
    | nil => rfl
    | cons f outer ih =>
      obtain ⟨b, hb, hkind, hname⟩ := h f (hstack f List.mem_cons_self)
      have houter := ih fun g hg => hstack g (List.mem_cons_of_mem f hg)
      rw [List.map_cons, classNameIn?, List.find?_cons]
      simp only [Frame.ofOpen, hb, Option.bind_eq_bind, Option.bind_some, hkind, hname]
      by_cases hclass : f.kind = .classBody
      · simp [hclass]
      · rw [if_neg hclass, houter, beq_false_of_ne hclass]
  exact hstack o.stack fun f hf => hf

theorem endStatement?_ofOutline (h : o.Refers) (ending : Ending) :
    (ofOutline o).endStatement? ending = some (ofOutline (o.endStatement ending)) := by
  have htake : (ofOutline o).buffer.take? = some (.ofLocated o.pendingText) := Buffer.take?_ofLocated _
  have hempty : (Buffer.ofLocated o.pendingText).text.isEmpty = o.pendingText.isEmpty := List.isEmpty_map
  rw [endStatement?, htake, scope?_ofOutline h, classNameIn?_ofOutline h, Outline.endStatement]
  simp only [Option.bind_eq_bind, Option.bind_some, hempty]
  split_ifs
  · rfl
  · simp only [ofOutline, Array.map_push]
    rfl

theorem head?_lineMap (text : List Located) : (lineMap text).head? = text.head?.map Located.line := by
  cases text with
  | nil => rfl
  | cons l text =>
    rw [List.head?_eq_getElem?]
    exact getElem?_lineMap [] l text

theorem openBlock?_ofOutline (h : o.Refers) (line : Nat) :
    (ofOutline o).openBlock? line = some (ofOutline (o.openBlock line)) := by
  have htake : (ofOutline o).buffer.take? = some ⟨chars o.pendingText, lineMap o.pendingText⟩ :=
    Buffer.take?_ofLocated _
  have hempty : (chars o.pendingText).isEmpty = o.pendingText.isEmpty := List.isEmpty_map
  rw [openBlock?, htake, scope?_ofOutline h, classNameIn?_ofOutline h, Outline.openBlock]
  simp only [Option.bind_eq_bind, Option.bind_some, Option.map_some, head?_lineMap, hempty]
  by_cases hinit : o.scope.ofHead (chars o.pendingText) = .initializer
  · simp only [hinit, decide_true, Bool.true_or, if_true]
    rfl
  · simp only [hinit, decide_false, Bool.false_or, if_false, Outline.endStatement]
    split_ifs with hblank
    · rfl
    · simp only [ofOutline, Array.map_push]
      rfl

theorem closeBlock?_ofOutline (h : o.Refers) (line : Nat) :
    (ofOutline o).closeBlock? line = some (ofOutline (o.closeBlock line)) := by
  cases hstack : o.stack with
  | nil =>
    have hframes : (ofOutline o).stack = [] := by rw [ofOutline, hstack]; rfl
    simp only [closeBlock?, Outline.closeBlock, hstack, hframes]
    rfl
  | cons f outer =>
    have hframes : (ofOutline o).stack = .ofOpen f :: outer.map .ofOpen := by rw [ofOutline, hstack]; rfl
    obtain ⟨b, hb, hkind, -⟩ := h f (by rw [hstack]; exact List.mem_cons_self)
    have hblock : (ofOutline o).blocks[(Frame.ofOpen f).block]? = some b := hb
    -- an initializer's close goes back to the text that its brace interrupted
    have hsaved : ((Frame.ofOpen f).saved.push '{' line).push '}' line =
        .ofLocated (f.interrupted ++ [Located.mk '{' line, Located.mk '}' line]) := by
      simp [Frame.ofOpen, Buffer.push_ofLocated]
    have hended : (ofOutline (o.endStatement .closes)).buffer = .ofLocated [] := by
      rw [ofOutline, Outline.pending_endStatement]
    simp only [closeBlock?, Outline.closeBlock, hstack, hframes, hblock, endStatement?_ofOutline h,
      Option.bind_eq_bind, Option.bind_some, hkind, hsaved, hended]
    by_cases hinit : f.kind = .initializer
    · simp only [hinit, if_true]
      rfl
    · simp only [hinit, if_false]
      rfl

theorem feed?_ofOutline (h : o.Refers) (x : Signal) :
    (ofOutline o).feed? x = some (ofOutline (o.read x)) := by
  cases x with
  | char line c =>
    have hdepth : (ofOutline o).depth = o.depth := rfl
    simp only [feed?, step?, Outline.read, Outline.step, hdepth]
    split_ifs
    · exact congrArg some (push_ofOutline { o with depth := o.depth + 1 } c line)
    · exact congrArg some (push_ofOutline { o with depth := o.depth - 1 } c line)
    · exact endStatement?_ofOutline h .semicolon
    · exact openBlock?_ofOutline h line
    · exact closeBlock?_ofOutline h line
    · exact congrArg some (push_ofOutline o c line)
  | lineEnd line =>
    have hempty : (ofOutline o).buffer.text.isEmpty = o.pending.isEmpty := by
      simp [ofOutline, Buffer.ofLocated, chars]
    simp only [feed?, Outline.read, Outline.endLine, hempty]
    split_ifs
    · rfl
    · exact congrArg some (push_ofOutline o ' ' line)

theorem foldlM_feed?_ofOutline (h : o.Refers) (fed : List Signal) :
    fed.foldlM feed? (ofOutline o) = some (ofOutline (o.readAll fed)) := by
  induction fed generalizing o with
  | nil => rfl
  | cons x fed ih =>
    rw [List.foldlM_cons, feed?_ofOutline h, Outline.readAll_cons]
    exact ih (h.read x)

/-- Whatever it is fed, a builder is in step with the outline. -/
theorem run?_eq (fed : List Signal) : run? fed = some (ofOutline (Outline.readAll {} fed)) := by
  have hrefers : Outline.Refers {} := fun f hf => absurd hf List.not_mem_nil
  have hstart : ofOutline {} = {} := by
    rw [ofOutline, Array.map_empty]
    rfl
  rw [run?, ← hstart]
  exact foldlM_feed?_ofOutline hrefers fed

/-- A builder that is fed the lines of a file reads its statements and blocks. -/
theorem run?_ofFile (content : List Char) :
    ∃ b, run? (SourceFile.signals (.parse content)) = some b ∧
      b.statements.toList = (SourceFile.parse content).statements.map .ofStatement ∧
      b.blocks.toList = (SourceFile.parse content).blocks ∧
      b.strayCloses.toList = (SourceFile.parse content).strayCloses := by
  refine ⟨_, run?_eq _, ?_⟩
  rw [SourceFile.signals, ← Outline.feedLines_eq_readAll]
  exact ⟨Array.toList_map, rfl, rfl⟩

end Builder

/-- The labels of a text end in the text and between two of its characters, and none is left behind. -/
theorem labelEnd?_in_range (text : List Char) : ∃ n, labelEnd? text = some n ∧ n ≤ Text.byteLength text ∧
    Text.splitBytes? n text = some (text.take (labelsLength text), text.drop (labelsLength text)) ∧
    labelEnd? (text.drop (labelsLength text)) = some 0 := by
  have htext := List.take_append_drop (labelsLength text) text
  refine ⟨_, labelEnd?_eq text, ?_, ?_, ?_⟩
  · have := Text.byteLength_append (text.take (labelsLength text)) (text.drop (labelsLength text))
    rw [htext] at this
    omega
  · have := Text.splitBytes?_append (text.take (labelsLength text)) (text.drop (labelsLength text))
    rwa [htext] at this
  · rw [labelEnd?_eq, labelsLength_drop, List.take_zero]
    rfl

/-- Whatever a builder is fed, it never cuts a text or its lines out of range. After each character and
each end of a line, it is in the state of the outline, the pending text and every text that was set aside
have one line for each byte, and the next statement can be taken. Fed with a file, it reads the statements
and blocks of the file. The labels that are cut off end in the text, between two characters, and leave no
label behind. -/
theorem builder_in_range :
    (∀ fed : List Signal, ∃ b taken, Builder.run? fed = some b ∧
      b = .ofOutline (Outline.readAll {} fed) ∧ b.Aligned ∧
      b.buffer.take? = some taken ∧ taken.Aligned) ∧
    (∀ content, ∃ b, Builder.run? (SourceFile.signals (.parse content)) = some b ∧
      b.statements.toList = (SourceFile.parse content).statements.map .ofStatement ∧
      b.blocks.toList = (SourceFile.parse content).blocks ∧
      b.strayCloses.toList = (SourceFile.parse content).strayCloses) ∧
    ∀ text, ∃ n, labelEnd? text = some n ∧ n ≤ Text.byteLength text ∧
      Text.splitBytes? n text = some (text.take (labelsLength text), text.drop (labelsLength text)) ∧
      labelEnd? (text.drop (labelsLength text)) = some 0 := by
  refine ⟨fun fed => ?_, Builder.run?_ofFile, labelEnd?_in_range⟩
  have haligned := Builder.aligned_ofOutline (Outline.readAll {} fed)
  obtain ⟨taken, htaken, htakenAligned⟩ := haligned.buffer.take?
  exact ⟨_, taken, Builder.run?_eq fed, rfl, haligned, htaken, htakenAligned⟩

end Guideline.Source
