import Guideline.Check.Naming

/-!
# Structure

Checks that look at more than one line: the guard of a header, and the size, the documentation and
the constructors of its functions.
-/

namespace Guideline.Check

open Source Declaration

/-! ### Include guards -/

/-- The text of a directive after its `#`. -/
def directive? : List Char → Option (List Char)
  | '#' :: rest => some (Text.trimStart rest)
  | _ => none

/-- The directive defines the given name. -/
def defines (guard : List Char) (directive : List Char) : Bool :=
  match Text.words directive with
  | keyword :: name :: _ => keyword = "define".toList && name = guard
  | _ => false

/-- The directive, with the next line of code after it, guards a header: `#pragma once`, `#ifndef`
with its `#define`, or `#if !defined`. -/
def isGuard (head : List Char) (next : Option (List Char)) : Bool :=
  match Text.words head with
  | [] => false
  | keyword :: rest =>
    if keyword = "pragma".toList then rest.head? = some "once".toList
    else if keyword = "ifndef".toList then
      match rest.head? with
      | some guard => (next.bind directive?).any (defines guard)
      | none => false
    else if Text.startsWith "if".toList keyword then
      match Text.trimStart (head.drop 2) with
      | '!' :: more => Text.startsWith "defined".toList (Text.trimStart more)
      | _ => false
    else false

/-- The code starts with a guard, if there is any code. -/
def hasIncludeGuard (source : SourceFile) : Bool :=
  match (source.code.map Text.trim).filter (!·.isEmpty) with
  | [] => true
  | first :: rest =>
    match directive? first with
    | some head => isGuard head rest.head?
    | none => false

def missingGuard (source : SourceFile) : List Finding :=
  if hasIncludeGuard source then [] else [{ line := 1 }]

/-! ### Functions -/

/-- The functions longer than `max` lines, from the head to the closing brace. -/
def longFunctions (source : SourceFile) (max : Nat) : List Finding :=
  source.blocks.filterMap fun b =>
    match b.kind, b.closeLine with
    | .functionBody, some close =>
      let length := close - b.headerLine + 1
      if max < length then
        some ⟨b.headerLine, s!"Function is {length} lines long (limit {max})"⟩
      else none
    | _, _ => none

/-- The functions that statements declare, with their statements. -/
def functions (source : SourceFile) : List (Statement × Signature) :=
  source.statements.filterMap fun s => (function? s).map (s, ·)

/-- The functions with a property, found where their names stand. -/
def functionsWith (source : SourceFile) (p : Statement → Signature → Bool)
    (hint : Signature → Option String) : List Finding :=
  ((functions source).filter fun (s, sig) => p s sig).map fun (s, sig) =>
    ⟨s.lineAt sig.offset, hint sig⟩

def manyParameters (source : SourceFile) (max : Nat) : List Finding :=
  functionsWith source (fun _ sig => max < sig.params.length) fun sig =>
    let count := sig.params.length
    s!"'{sig.name}' takes {count} parameters (limit {max}); group related ones into a struct"

/-- What shows that a comment is documentation. -/
def docMarkers : List String := ["/**", "///", "//!", "/*!", "@brief", "\\brief"]

/-- Going up from line `n` over blank lines and comments, documentation is found. -/
def hasDocFrom (source : SourceFile) : (n : Nat) → Bool
  | 0 => false
  | n + 1 =>
    let raw := source.rawLine (n + 1)
    if Text.allBlank raw then hasDocFrom source n
    else if !source.isCommentOnly (n + 1) then false
    else docMarkers.any (fun m => Text.occurs m.toList raw) || hasDocFrom source n

/-- Functions that must be documented. -/
def needsDoc (sig : Signature) : Bool :=
  (sig.kind = .regular || sig.kind = .operator) && !sig.isDeleted && !sig.isDefaulted

def undocumented (source : SourceFile) : List Finding :=
  functionsWith source
    (fun s sig => needsDoc sig && !hasDocFrom source (s.firstLine - 1)) fun _ => none

/-- A constructor that one argument is enough for, other than to copy, to move or to list. -/
def needsExplicit (sig : Signature) : Bool :=
  sig.kind = .constructor && !sig.isExplicit && !sig.isDeleted &&
    match sig.params with
    | [] => false
    | first :: rest =>
      rest.all (·.hasDefault) && !(first.isReference && first.words.contains sig.name)
        && !first.words.contains "initializer_list"

def implicitConstructors (source : SourceFile) : List Finding :=
  functionsWith source (fun s sig => s.scope = .classBody && needsExplicit sig) fun sig =>
    s!"Mark constructor '{sig.name}' explicit"

end Guideline.Check
