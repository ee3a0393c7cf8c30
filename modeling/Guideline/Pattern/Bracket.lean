import Guideline.Pattern.Escape

/-!
# Bracketed classes of the pattern syntax

A bracketed class lists characters, intervals, named classes and further bracketed classes, joined
by union and by the operators `&&`, `--` and `~~`, which bind alike and to the left. Classes that
are still open wait on a stack.
-/

namespace Guideline.Pattern

/-- How the rest of a pattern is read. -/
structure Flags where
  caseInsensitive : Bool := false
  multiLine : Bool := false
  dotAll : Bool := false
  swapGreed : Bool := false
  unicode : Bool := true
  crlf : Bool := false
  ignoreBlank : Bool := false
deriving DecidableEq, Repr

/-- A class with the depth of its nesting. -/
structure ClassNode where
  cls : CharClass
  depth : Nat := 0
deriving Repr

namespace Flags

/-- Closes a class under case if case does not count. -/
def fold (flags : Flags) (cls : CharClass) : CharClass :=
  if !flags.caseInsensitive then cls
  else if flags.unicode then .fold cls else .foldAscii cls

/-- Closes a class under case and negates it. Where Unicode is off a negated class would match
parts of characters, so there is none. -/
def foldAndNegate? (flags : Flags) (negated : Bool) (cls : CharClass) : Option CharClass :=
  if !negated then some (flags.fold cls)
  else if flags.unicode then some (.negate (flags.fold cls))
  else none

/-- The character that a literal stands for; bytes that are no characters have none. -/
def literal? (flags : Flags) (l : Literal) : Option Char :=
  if !flags.unicode && l.isByte && 127 < l.char.toNat then none else some l.char

/-- The character that a literal stands for in a class, where Unicode must be on for more than
ASCII. -/
def classLiteral? (flags : Flags) (l : Literal) : Option Char :=
  (flags.literal? l).filter fun c => flags.unicode || c.toNat < 128

/-- A class with a one-letter escape. -/
def perl? (flags : Flags) (kind : PerlClass) (negated : Bool) : Option CharClass :=
  let cls :=
    match kind with
    | .digit => if flags.unicode then .ranges (Unicode.categories ["Nd"]) else .between '0' '9'
    | .space => if flags.unicode then .blank else (CharClass.ascii? "space").getD .none
    | .word => if flags.unicode then .word else (CharClass.ascii? "word").getD .none
  if !negated then some cls else if flags.unicode then some (.negate cls) else none

/-- The class of the characters with a property. -/
def property? (flags : Flags) (ranges : Unicode.Ranges) (negated : Bool) : Option CharClass :=
  if flags.unicode then flags.foldAndNegate? negated (.ranges ranges) else none

end Flags

/-- The operators between classes. -/
inductive ClassOp where
  | inter
  | diff
  | symDiff
deriving DecidableEq, Repr

def ClassOp.apply : ClassOp → CharClass → CharClass → CharClass
  | .inter => .inter
  | .diff => .diff
  | .symDiff => .symDiff

/-- What an open bracketed class waits for. -/
inductive ClassFrame where
  /-- The end of a class among the items `outer` of the class around it. -/
  | bracket (outer : List ClassNode) (negated : Bool)
  /-- The right operand. -/
  | operator (op : ClassOp) (left : ClassNode)
deriving Repr

/-- A class being read: its items so far, last first, and what it is inside of. -/
structure ClassState where
  rest : List Char
  items : List ClassNode := []
  stack : List ClassFrame := []
deriving Repr

/-- The union of the items read. -/
def unionNode : List ClassNode → ClassNode
  | [] => ⟨.none, 0⟩
  | [item] => item
  | item :: items =>
    ⟨items.foldl (fun u i => .union i.cls u) item.cls,
      1 + (items.map (·.depth)).foldl max item.depth⟩

/-- The items read, with the operator that waits for them applied. -/
def applyOperator (flags : Flags) (right : ClassNode) :
    List ClassFrame → ClassNode × List ClassFrame
  | .operator op left :: stack =>
    (⟨op.apply (flags.fold left.cls) (flags.fold right.cls), 1 + max left.depth right.depth⟩, stack)
  | stack => (right, stack)

/-- The leading dashes of a class, which stand for themselves. -/
def leadingDashes (ignoreBlank : Bool) : (fuel : Nat) → List Char → List ClassNode × List Char
  | 0, cs => ([], cs)
  | fuel + 1, cs =>
    match cs with
    | '-' :: rest =>
      let (items, after) := leadingDashes ignoreBlank fuel (skip ignoreBlank rest)
      (⟨.char '-', 0⟩ :: items, after)
    | _ => ([], cs)

/-- Reads the start of a bracketed class after its bracket. A closing bracket in the first place
stands for itself. -/
def openClass (flags : Flags) (s : ClassState) (rest : List Char) : Option ClassState := do
  let cs := skip flags.ignoreBlank rest
  let (negated, cs) := match cs with
    | '^' :: after => (true, skip flags.ignoreBlank after)
    | _ => (false, cs)
  let (dashes, cs) := leadingDashes flags.ignoreBlank cs.length cs
  let (items, cs) := match dashes, cs with
    | [], ']' :: after => ([(⟨.char ']', 0⟩ : ClassNode)], skip flags.ignoreBlank after)
    | _, _ => (dashes, cs)
  if cs.isEmpty then none
  some { rest := cs, items, stack := .bracket s.items negated :: s.stack }

/-- Reads `[:name:]` after its first bracket. -/
def asciiClass? (rest : List Char) : Option (CharClass × Bool × List Char) := do
  let after ← Text.after? [':'] rest
  let (negated, after) := match after with
    | '^' :: more => (true, more)
    | _ => (false, after)
  let cls ← CharClass.ascii? (String.ofList (after.takeWhile (· ≠ ':')))
  let rest ← Text.after? [':', ']'] (after.dropWhile (· ≠ ':'))
  some (cls, negated, rest)

/-- What one place of a class holds before a range is looked for. -/
inductive ClassItem where
  | literal (c : Char)
  | several (cls : CharClass)
deriving Repr

/-- Reads one place of a class. Assertions have no place there. -/
def readClassItem (flags : Flags) : List Char → Option (ClassItem × List Char)
  | [] => none
  | '\\' :: rest =>
    match readEscape flags.ignoreBlank rest with
    | some (.literal l, after) => (flags.classLiteral? l).map (.literal ·, after)
    | some (.perl kind negated, after) => (flags.perl? kind negated).map (.several ·, after)
    | some (.property ranges negated, after) =>
      (flags.property? ranges negated).map (.several ·, after)
    | _ => none
  | c :: rest => (flags.classLiteral? { char := c }).map (.literal ·, rest)

def ClassItem.node : ClassItem → ClassNode
  | .literal c => ⟨.char c, 0⟩
  | .several cls => ⟨cls, 0⟩

/-- Reads an item or an interval. A dash before a bracket or another dash starts no interval. -/
def readClassRange (flags : Flags) (cs : List Char) : Option (ClassNode × List Char) := do
  let (first, after) ← readClassItem flags cs
  match skip flags.ignoreBlank after with
  | [] => none
  | '-' :: rest =>
    match skip flags.ignoreBlank rest with
    | [] => none
    | d :: more =>
      if d = ']' || d = '-' then some (first.node, '-' :: rest)
      else
        match first, ← readClassItem flags (d :: more) with
        | .literal lo, (.literal hi, after) =>
          if lo ≤ hi then some (⟨.between lo hi, 0⟩, after) else none
        | _, _ => none
  | rest => some (first.node, rest)

/-- The end of a bracketed class: the class itself when it was the outermost. -/
def closeClass (flags : Flags) (s : ClassState) (rest : List Char) :
    Option (ClassNode × List Char ⊕ ClassState) :=
  let (set, stack) := applyOperator flags (unionNode s.items) s.stack
  match stack with
  | .bracket outer negated :: stack =>
    (flags.foldAndNegate? negated set.cls).map fun cls =>
      let node := ⟨cls, set.depth + 1⟩
      if stack.isEmpty then .inl (node, rest) else .inr { rest, items := node :: outer, stack }
  | _ => none

/-- An operator between classes. -/
def pushOperator (flags : Flags) (s : ClassState) (op : ClassOp) (rest : List Char) : ClassState :=
  let (left, stack) := applyOperator flags (unionNode s.items) s.stack
  { rest, items := [], stack := .operator op left :: stack }

/-- Reads the next part of a bracketed class. -/
def classStep (flags : Flags) (s : ClassState) : Option (ClassNode × List Char ⊕ ClassState) :=
  match skip flags.ignoreBlank s.rest with
  | [] => none
  | '[' :: rest =>
    match if s.stack.isEmpty then none else asciiClass? rest with
    | some (cls, negated, after) =>
      (flags.foldAndNegate? negated cls).map fun cls =>
        .inr { s with rest := after, items := ⟨cls, 0⟩ :: s.items }
    | none => (openClass flags s rest).map .inr
  | ']' :: rest => closeClass flags s rest
  | '&' :: '&' :: rest => some (.inr (pushOperator flags s .inter rest))
  | '-' :: '-' :: rest => some (.inr (pushOperator flags s .diff rest))
  | '~' :: '~' :: rest => some (.inr (pushOperator flags s .symDiff rest))
  | cs => (readClassRange flags cs).map fun (node, rest) =>
      .inr { s with rest, items := node :: s.items }

/-- Reads a bracketed class; every step reads a character, so `fuel` is enough when it is more than
the length of the pattern. -/
def readClass (flags : Flags) : (fuel : Nat) → ClassState → Option (ClassNode × List Char)
  | 0, _ => none
  | fuel + 1, s =>
    match classStep flags s with
    | none => none
    | some (.inl done) => some done
    | some (.inr next) => readClass flags fuel next

end Guideline.Pattern
