import Guideline.Source.Head
import Guideline.Source.Statement

/-!
# Statements and blocks of a file

The outline of a file is read character by character from its masked code. Text collects in
`Outline.pending` until a `;`, `{` or `}` ends the statement; blocks wait on a stack until they are
closed. A braced initializer belongs to the statement around it, so its head is set aside and taken
up again, with `{}` in place of the braces and what they hold.
-/

namespace Guideline.Source

/-- A region between braces. -/
structure Block where
  kind : Scope
  /-- The name of a class or namespace. -/
  name : Option String
  /-- The first line of the text that introduces the block. -/
  headerLine : Nat
  openLine : Nat
  /-- The line of the closing brace; `none` if the file ends first. -/
  closeLine : Option Nat
deriving DecidableEq, Repr

/-- A block that is not closed yet. -/
structure OpenBlock where
  /-- Its place in the list of blocks. -/
  index : Nat
  kind : Scope
  name : Option String
  /-- The parenthesis depth around the block. -/
  outerDepth : Nat
  /-- The text that a braced initializer interrupted. -/
  interrupted : List Located
deriving DecidableEq, Repr

structure Outline where
  statements : Array Statement := #[]
  blocks : Array Block := #[]
  /-- The open blocks, innermost first. -/
  stack : List OpenBlock := []
  /-- The lines of closing braces that close nothing. -/
  strayCloses : Array Nat := #[]
  pending : Array Located := #[]
  /-- How many parentheses are open. -/
  depth : Nat := 0
deriving Repr

namespace Outline

def push (o : Outline) (c : Char) (line : Nat) : Outline :=
  { o with pending := o.pending.push ⟨c, line⟩ }

/-- The kind of the innermost open block. -/
def scope (o : Outline) : Scope :=
  match o.stack with
  | [] => .file
  | b :: _ => b.kind

/-- The name of the innermost open class. -/
def className (o : Outline) : Option String :=
  (o.stack.find? (·.kind == .classBody)).bind (·.name)

/-- The pending text as a statement would hold it. -/
def pendingText (o : Outline) : List Located :=
  stripLabels o.pending.toList

/-- Ends the pending statement; blank text makes none. -/
def endStatement (o : Outline) (ending : Ending) : Outline :=
  let text := o.pendingText
  if text.isEmpty then { o with pending := #[] }
  else
    { o with
      statements := o.statements.push ⟨text, ending, o.scope, o.className⟩
      pending := #[] }

/-- The name of a block of the given kind that has the head `head`. -/
def blockName (kind : Scope) (head : List Char) : Option String :=
  match kind with
  | .classBody => (className? (tokenize head)).map (·.name)
  | .namespaceBody =>
    match namespaceNames (tokenize head) with
    | [] => none
    | names => some ("::".intercalate (names.map (·.name)))
  | _ => none

/-- An opening brace. -/
def openBlock (o : Outline) (line : Nat) : Outline :=
  let head := o.pendingText
  let kind := o.scope.ofHead (chars head)
  let name := blockName kind (chars head)
  let ended :=
    if kind = .initializer then { o with pending := #[] } else o.endStatement (.opens kind)
  { ended with
    blocks := o.blocks.push ⟨kind, name, (head.head?.map (·.line)).getD line, line, none⟩
    stack :=
      ⟨o.blocks.size, kind, name, o.depth, if kind = .initializer then head else []⟩ :: o.stack
    depth := 0 }

/-- A closing brace. One that closes nothing drops the pending text. -/
def closeBlock (o : Outline) (line : Nat) : Outline :=
  match o.stack with
  | [] => { o with strayCloses := o.strayCloses.push line, pending := #[] }
  | b :: outer =>
    let ended := o.endStatement .closes
    { ended with
      blocks := ended.blocks.modify b.index fun block => { block with closeLine := some line }
      stack := outer
      depth := b.outerDepth
      pending :=
        if b.kind = .initializer then
          (b.interrupted ++ [Located.mk '{' line, Located.mk '}' line]).toArray
        else #[] }

/-- Reads one character of masked code. -/
def step (o : Outline) (line : Nat) (c : Char) : Outline :=
  if c = '(' then { o with depth := o.depth + 1 }.push c line
  else if c = ')' then { o with depth := o.depth - 1 }.push c line
  else if c = ';' && o.depth == 0 then o.endStatement .semicolon
  else if c = '{' then o.openBlock line
  else if c = '}' then o.closeBlock line
  else o.push c line

/-- The end of a line separates words. -/
def endLine (o : Outline) (line : Nat) : Outline :=
  if o.pending.isEmpty then o else o.push ' ' line

def feedLine (o : Outline) (line : Nat) (code : List Char) : Outline :=
  (code.foldl (fun o c => o.step line c) o).endLine line

/-- Reads lines of masked code, the first of which has the number `line`; directive lines are
passed over. -/
def feedLines (o : Outline) (line : Nat) : List (List Char × Bool) → Outline
  | [] => o
  | (code, isDirective) :: rest =>
    (if isDirective then o else o.feedLine line code).feedLines (line + 1) rest

end Outline

end Guideline.Source
