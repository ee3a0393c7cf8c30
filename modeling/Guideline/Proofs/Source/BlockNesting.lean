import Guideline.Proofs.Source.BracedGroup
import Mathlib.Data.List.Induction

/-!
# How blocks nest

The kind of a block depends on the text before its brace and on the kind of the block around it, and the
second decides a few things whatever the text is (`Scope.allows_ofHead`). The
blocks around a place are told by the braces before it: they are those whose braces are still open
(`Traced.indices`), and the open blocks that the outline has put aside agree with them (`Traced.label`). So
the rules hold in the tree of blocks that the braces of a file make (`blocks_nest`).
-/

namespace Guideline.Source

open Brace

/-! ### Kinds of blocks -/

namespace Scope

/-- Scopes that list values: every brace in them starts an initializer. -/
def isListing : Scope → Bool
  | .enumBody | .initializer => true
  | _ => false

/-- A block of the kind may stand in the scope. -/
structure Allows (scope kind : Scope) : Prop where
  not_file : kind ≠ .file
  listing : scope.isListing = true → kind = .initializer
  function : kind = .functionBody → scope.isDeclarative = true

theorem allows_of_not_isListing {scope kind : Scope} (h : ¬ scope.isListing = true) (hfile : kind ≠ .file)
    (hfunction : kind ≠ .functionBody) : scope.Allows kind :=
  ⟨hfile, fun h' => absurd h' h, fun h' => absurd h' hfunction⟩

theorem Allows.ite {scope a b : Scope} {p : Prop} [Decidable p] (ha : p → scope.Allows a)
    (hb : scope.Allows b) : scope.Allows (if p then a else b) := by
  split
  next hp => exact ha hp
  next => exact hb

theorem allows_ofTokens {scope : Scope} (h : ¬ scope.isListing = true) (first : Token) (rest : List Token) :
    scope.Allows (ofTokens scope first rest) := by
  have hallows : ∀ {kind : Scope}, kind ∉ [file, functionBody] → scope.Allows kind := by
    intro kind hkind
    simp only [List.mem_cons, List.not_mem_nil, or_false, not_or] at hkind
    exact allows_of_not_isListing h hkind.1 hkind.2
  unfold ofTokens
  extract_lets tokens last lead hasParen assigned
  refine .ite (fun _ => hallows (by decide)) (.ite (fun _ => hallows (by decide))
    (.ite (fun _ => hallows (by decide)) ?_))
  clear_value assigned
  cases assigned with
  | some value => exact .ite (fun _ => hallows (by decide)) (hallows (by decide))
  | none =>
    refine .ite (fun _ => hallows (by decide)) (.ite (fun _ => hallows (by decide))
      (.ite (fun hfunction => ?_) (hallows (by decide))))
    exact ⟨by decide, fun h' => absurd h' h, fun _ => (Bool.and_eq_true_iff.1 hfunction).2⟩

/-- Whatever the text before a brace, the block may stand where it does. -/
theorem allows_ofHead (scope : Scope) (head : List Char) : scope.Allows (scope.ofHead head) := by
  have hinitializer : scope.Allows .initializer := ⟨by decide, fun _ => rfl, fun h => by cases h⟩
  unfold ofHead
  split
  next => exact hinitializer
  next => exact hinitializer
  next hinit henum =>
    have hlisting : ¬ scope.isListing = true := by
      cases scope with
      | enumBody => exact absurd rfl henum
      | initializer => exact absurd rfl hinit
      | _ => decide
    split
    next => exact allows_of_not_isListing hlisting (by decide) (by decide)
    next first rest _ => exact allows_ofTokens hlisting first rest

end Scope

/-- What a block is to the code in it. -/
def Block.label (b : Block) : Scope × Option String :=
  (b.kind, b.name)

def OpenBlock.label (b : OpenBlock) : Scope × Option String :=
  (b.kind, b.name)

/-- The character that ends a statement. -/
def Ending.char : Ending → Char
  | .semicolon => ';'
  | .opens _ => '{'
  | .closes => '}'

namespace Outline

def labels (o : Outline) : List (Scope × Option String) :=
  o.blocks.toList.map Block.label

/-! ### Open blocks and open braces -/

/-- The outline has read the signals `u`: its open blocks are the braces that are still open. -/
structure Traced (u : List Signal) (o : Outline) : Prop where
  size : o.blocks.size = (openLines (bracesIn u)).length
  indices : o.openIndices = (unclosed 0 (bracesIn u)).reverse
  label : ∀ b ∈ o.stack, o.labels[b.index]? = some b.label
  /-- In an open block of listings, all blocks are initializers. -/
  nests : o.stack.Pairwise fun inner outer => outer.kind.isListing = true → inner.kind = .initializer

/-- Closing a block changes its last line only. -/
theorem labels_closeBlock (o : Outline) (line : Nat) : (o.closeBlock line).labels = o.labels := by
  cases hstack : o.stack with
  | nil => rw [labels, (closeBlock_of_nil hstack line).1, labels]
  | cons b outer =>
    rw [labels, (closeBlock_of_cons hstack line).1, labels, Array.toList_modify]
    refine List.ext_getElem? fun i => ?_
    rw [List.getElem?_map, List.getElem?_map, List.getElem?_modify]
    cases o.blocks.toList[i]? with
    | none => rfl
    | some block => split_ifs <;> rfl

theorem Opens.labels {o : Outline} {line : Nat} {block : Block} {entry : OpenBlock}
    (h : o.Opens line block entry) : (o.openBlock line).labels = o.labels ++ [block.label] := by
  rw [Outline.labels, h.blocks, Array.toList_push, List.map_append]
  rfl

theorem labels_isPrefix_read (o : Outline) (x : Signal) : o.labels <+: (o.read x).labels := by
  cases hx : x.brace? with
  | none =>
    obtain ⟨-, hblocks, -⟩ := o.read_of_brace?_eq_none hx
    simp [labels, hblocks]
  | some b =>
    obtain rfl := Signal.eq_char_of_brace? hx
    cases b with
    | opening n =>
      obtain ⟨block, entry, hopens⟩ := o.exists_opens n
      show o.labels <+: (o.read (.char n '{')).labels
      rw [read_opening, hopens.labels]
      exact List.prefix_append _ _
    | closing n =>
      show o.labels <+: (o.read (.char n '}')).labels
      simp [read_closing, labels_closeBlock]

theorem labels_isPrefix_readAll (o : Outline) (u : List Signal) : o.labels <+: (o.readAll u).labels := by
  induction u generalizing o with
  | nil => exact List.prefix_refl _
  | cons x u ih => exact (o.labels_isPrefix_read x).trans (ih (o.read x))

namespace Traced

variable {u : List Signal} {o : Outline}

theorem scope_of_mem (h : Traced u o) {b : OpenBlock} (hb : b ∈ o.stack) (hlisting : b.kind.isListing = true) :
    o.scope.isListing = true := by
  have hnests := h.nests
  rw [Outline.scope]
  cases hstack : o.stack with
  | nil => rw [hstack] at hb; cases hb
  | cons top outer =>
    rw [hstack] at hb hnests
    rcases List.mem_cons.1 hb with rfl | hb
    · exact hlisting
    · show top.kind.isListing = true
      rw [(List.pairwise_cons.1 hnests).1 b hb hlisting]
      rfl

theorem openBlock (h : Traced u o) (n : Nat) : Traced (u ++ [.char n '{']) (o.openBlock n) := by
  obtain ⟨block, entry, hopens⟩ := o.exists_opens n
  have hbraces : bracesIn (u ++ [.char n '{']) = bracesIn u ++ [opening n] := bracesIn_append u _
  have hsize : o.labels.length = o.blocks.size := by simp [Outline.labels]
  refine ⟨?_, ?_, ?_, ?_⟩
  · rw [hopens.blocks, Array.size_push, h.size, hbraces, openLines_append, List.length_append]
    rfl
  · rw [openIndices, hopens.stack, List.map_cons, hopens.index, h.size, hbraces, unclosed_append_opening,
      List.reverse_append, ← h.indices, Nat.zero_add]
    rfl
  · intro b hb
    rw [hopens.stack] at hb
    rw [hopens.labels]
    rcases List.mem_cons.1 hb with rfl | hb
    · rw [hopens.index, ← hsize, List.getElem?_concat_length, OpenBlock.label, hopens.entry_kind,
        hopens.entry_name]
      rfl
    · have hold := h.label b hb
      rw [List.getElem?_append_left (List.getElem?_eq_some_iff.1 hold).1]
      exact hold
  · rw [hopens.stack]
    refine List.pairwise_cons.2 ⟨fun b hb hlisting => ?_, h.nests⟩
    rw [hopens.entry_kind, hopens.kind]
    exact (Scope.allows_ofHead _ _).listing (h.scope_of_mem hb hlisting)

theorem closeBlock (h : Traced u o) (n : Nat) : Traced (u ++ [.char n '}']) (o.closeBlock n) := by
  have hbraces : bracesIn (u ++ [.char n '}']) = bracesIn u ++ [closing n] := bracesIn_append u _
  have htail : (o.closeBlock n).stack = o.stack.tail := by
    cases hstack : o.stack with
    | nil => exact (closeBlock_of_nil hstack n).2.1
    | cons b outer => exact (closeBlock_of_cons hstack n).2.1
  have hsize : (o.closeBlock n).blocks.size = o.blocks.size := by
    have hlength := congrArg List.length (labels_closeBlock o n)
    simpa [Outline.labels] using hlength
  refine ⟨?_, ?_, fun b hb => ?_, ?_⟩
  · rw [hsize, h.size, hbraces, openLines_append, List.length_append]
    rfl
  · rw [openIndices, htail, List.map_tail, hbraces, unclosed_append_closing, ← List.tail_reverse,
      ← h.indices, openIndices]
  · rw [labels_closeBlock]
    exact h.label b (List.mem_of_mem_tail (htail ▸ hb))
  · rw [htail]
    exact h.nests.tail

theorem read (h : Traced u o) (x : Signal) : Traced (u ++ [x]) (o.read x) := by
  cases hx : x.brace? with
  | none =>
    obtain ⟨hstack, hblocks, -⟩ := o.read_of_brace?_eq_none hx
    have hbraces : bracesIn (u ++ [x]) = bracesIn u := by
      rw [bracesIn_append]
      simp [bracesIn, hx]
    refine ⟨?_, ?_, ?_, ?_⟩
    · rw [hblocks, hbraces, h.size]
    · rw [openIndices, hstack, hbraces, ← h.indices, openIndices]
    · rw [hstack, Outline.labels, hblocks]
      exact h.label
    · rw [hstack]
      exact h.nests
  | some b =>
    obtain rfl := Signal.eq_char_of_brace? hx
    cases b with
    | opening n => exact o.read_opening n ▸ h.openBlock n
    | closing n => exact o.read_closing n ▸ h.closeBlock n

end Traced

theorem traced_readAll (u : List Signal) : Traced u (readAll {} u) := by
  induction u using List.reverseRecOn with
  | nil => exact ⟨rfl, rfl, by simp [readAll], .nil⟩
  | append_singleton u x ih =>
    rw [readAll_append_singleton]
    exact ih.read x

/-! ### Where statements stand -/

/-- The pending statement may end so: a block ends it only if it is no initializer. -/
def Fits (o : Outline) (ending : Ending) : Prop :=
  ∀ kind, ending = .opens kind → kind = o.scope.ofHead (chars o.pendingText) ∧ kind ≠ .initializer

/-- The statement is the one that is pending. -/
structure Ends (o : Outline) (s : Statement) : Prop where
  located : s.located = o.pendingText
  fits : o.Fits s.ending
  scope : s.scope = o.scope
  className : s.className = o.className

theorem statements_read_of_fits {o : Outline} {ending : Ending} (h : o.Fits ending) {line : Nat}
    (hread : (o.read (.char line ending.char)).statements = (o.endStatement ending).statements) :
    (o.read (.char line ending.char)).statements = o.statements ∨
      ∃ line' s, Signal.char line ending.char = .char line' s.ending.char ∧ o.Ends s ∧
        (o.read (.char line ending.char)).statements = o.statements.push s := by
  rw [hread]
  dsimp only [endStatement]
  split
  · exact .inl rfl
  · exact .inr ⟨line, _, rfl, ⟨rfl, h, rfl, rfl⟩, rfl⟩

/-- A signal adds no statement, or the one that is pending, which it ends. -/
theorem statements_read (o : Outline) (x : Signal) :
    (o.read x).statements = o.statements ∨
      ∃ line s, x = .char line s.ending.char ∧ o.Ends s ∧ (o.read x).statements = o.statements.push s := by
  cases x with
  | lineEnd line => exact .inl (o.statements_endLine line)
  | char line c =>
    by_cases hopen : c = '{'
    · subst hopen
      by_cases hkind : o.scope.ofHead (chars o.pendingText) = .initializer
      · left
        rw [read_opening]
        simp only [openBlock, if_pos hkind]
      · have hfits : o.Fits (.opens (o.scope.ofHead (chars o.pendingText))) := by
          intro kind h
          obtain rfl := Ending.opens.inj h
          exact ⟨rfl, hkind⟩
        refine statements_read_of_fits hfits ((congrArg statements (o.read_opening line)).trans ?_)
        simp only [openBlock, if_neg hkind]
    by_cases hclose : c = '}'
    · subst hclose
      cases hstack : o.stack with
      | nil =>
        left
        rw [read_closing, closeBlock, hstack]
      | cons b outer =>
        refine statements_read_of_fits (show o.Fits .closes by simp [Fits])
          ((congrArg statements (o.read_closing line)).trans ?_)
        rw [closeBlock, hstack]
    by_cases hend : c = ';' ∧ o.depth = 0
    · obtain ⟨rfl, hdepth⟩ := hend
      refine statements_read_of_fits (show o.Fits .semicolon by simp [Fits]) ?_
      show (o.step line ';').statements = _
      simp [step, hdepth]
    · left
      show (o.step line c).statements = _
      unfold step
      split_ifs with _ _ hsemicolon
      · rfl
      · rfl
      · exact absurd (by simpa using hsemicolon) hend
      · rfl

/-- A statement was added when its ending was read. -/
theorem exists_ends_of_getElem?_statements {u : List Signal} {k : Nat} {s : Statement}
    (h : (readAll {} u).statements[k]? = some s) :
    ∃ before line after, u = before ++ .char line s.ending.char :: after ∧ (readAll {} before).Ends s ∧
      (readAll {} before).statements.size = k ∧
      (readAll {} (before ++ [.char line s.ending.char])).statements = (readAll {} before).statements.push s := by
  induction u using List.reverseRecOn with
  | nil => simp [readAll] at h
  | append_singleton u x ih =>
    by_cases hold : (readAll {} u).statements[k]? = some s
    · obtain ⟨before, line, after, rfl, hrest⟩ := ih hold
      exact ⟨before, line, after ++ [x], by simp, hrest⟩
    -- It was not there before the last signal.
    have hread := readAll_append_singleton {} u x
    rw [hread] at h
    rcases statements_read (readAll {} u) x with heq | ⟨line, s', rfl, hends, heq⟩
    · rw [heq] at h
      exact absurd h hold
    · rw [heq, Array.getElem?_push] at h
      split_ifs at h with hk
      · obtain rfl := Option.some.inj h
        exact ⟨u, line, [], rfl, hends, hk.symm, hread ▸ heq⟩
      · exact absurd h hold

/-- The text that is pending behind `start ++ text` was collected from `text`: nothing was pending before, and
from then on something was, wherever the braces of `text` are balanced. -/
structure Collects (start text : List Signal) : Prop where
  pending : (readAll {} start).pending = #[]
  balanced : Balanced (bracesIn text)
  collected : ∀ t, t <+: text → t ≠ [] → Balanced (bracesIn t) → (readAll {} (start ++ t)).pending ≠ #[]

namespace Collects

variable {start text : List Signal}

theorem nil (h : (readAll {} start).pending = #[]) : Collects start [] :=
  ⟨h, .nil, fun _ ht hne => absurd (List.prefix_nil.1 ht) hne⟩

theorem append_signal (h : Collects start text) {x : Signal} (hx : x.brace? = none)
    (hne : (readAll {} (start ++ (text ++ [x]))).pending ≠ #[]) : Collects start (text ++ [x]) := by
  refine ⟨h.pending, ?_, fun t ht htne hbalanced => ?_⟩
  · rw [bracesIn_append]
    exact h.balanced.append (by simpa [bracesIn, hx] using Balanced.nil)
  · rcases List.prefix_concat_iff.1 ht with rfl | ht
    · exact hne
    · exact h.collected t ht htne hbalanced

/-- An initializer belongs to the text around it. -/
theorem append_group (h : Collects start text) {inside : List Signal} (hinside : Balanced (bracesIn inside))
    {a b : Nat} (hne : (readAll {} (start ++ (text ++ .char a '{' :: inside ++ [.char b '}']))).pending ≠ #[]) :
    Collects start (text ++ .char a '{' :: inside ++ [.char b '}']) := by
  refine ⟨h.pending, ?_, fun t ht htne hbalanced => ?_⟩
  · have hgroup : bracesIn (.char a '{' :: inside ++ [.char b '}']) = opening a :: (bracesIn inside ++ [closing b]) :=
      congrArg (opening a :: ·) (bracesIn_append inside _)
    rw [List.append_assoc, bracesIn_append, hgroup]
    exact h.balanced.append (.wrap hinside .nil)
  · rcases List.prefix_concat_iff.1 ht with rfl | ht
    · exact hne
    · rcases List.prefix_or_prefix_of_prefix ht (List.prefix_append text _) with ht' | ⟨rest, rfl⟩
      · exact h.collected t ht' htne hbalanced
      · have hrest := (List.prefix_append_right_inj text).1 ht
        cases rest with
        | nil => exact h.collected _ (by simp) htne hbalanced
        | cons x rest =>
          -- The group would be left open.
          obtain ⟨rfl, hbegins⟩ := List.cons_prefix_cons.1 hrest
          have hopen : bracesIn (text ++ .char a '{' :: rest) = bracesIn text ++ opening a :: bracesIn rest :=
            bracesIn_append text _
          rw [hopen] at hbalanced
          exact absurd hbalanced (hinside.not_append_opening (hbegins.filterMap _) _ a)

end Collects

/-- What is pending was collected outside of all groups but those that are closed. -/
theorem exists_collects (u : List Signal) : ∃ start text, u = start ++ text ∧ Collects start text := by
  -- A closing brace takes up the text before its group, so the induction is on length.
  induction hlen : u.length using Nat.strongRecOn generalizing u with
  | _ len ih =>
    by_cases hempty : (readAll {} u).pending = #[]
    · exact ⟨u, [], by simp, .nil hempty⟩
    rcases List.eq_nil_or_concat u with rfl | ⟨v, x, rfl⟩
    · exact absurd rfl hempty
    rw [List.concat_eq_append] at hempty hlen ⊢
    rw [List.length_append, List.length_singleton] at hlen
    cases hx : x.brace? with
    | none =>
      obtain ⟨start, text, rfl, hcollects⟩ := ih v.length (by omega) v rfl
      rw [List.append_assoc] at hempty ⊢
      exact ⟨start, text ++ [x], rfl, hcollects.append_signal hx hempty⟩
    | some b =>
      obtain rfl := Signal.eq_char_of_brace? hx
      rw [readAll_append_singleton] at hempty
      cases b with
      | opening a =>
        refine absurd ?_ hempty
        show ((readAll {} v).read (.char a '{')).pending = #[]
        rw [read_opening]
        exact pending_openBlock _ a
      | closing b =>
        have hunclosed : unclosed 0 (bracesIn v) ≠ [] := by
          intro hnil
          have hstack : (readAll {} v).stack = [] := by
            have hindices := (traced_readAll v).indices
            rw [hnil, openIndices] at hindices
            exact List.map_eq_nil_iff.1 hindices
          refine hempty ?_
          show ((readAll {} v).read (.char b '}')).pending = #[]
          rw [read_closing, Outline.closeBlock, hstack]
        obtain ⟨p, a, q, hbraces, hq⟩ := exists_of_unclosed_ne_nil hunclosed
        obtain ⟨before, y, inside, rfl, hy, -, rfl⟩ := exists_of_bracesIn_eq hbraces
        obtain rfl := Signal.eq_char_of_brace? hy
        obtain ⟨start, text, rfl, hcollects⟩ := ih before.length
          (by rw [List.length_append, List.length_cons] at hlen; omega) before rfl
        have hsplit : start ++ text ++ .char a '{' :: inside ++ [.char b '}'] =
            start ++ (text ++ .char a '{' :: inside ++ [.char b '}']) := by simp
        refine ⟨start, _, hsplit, hcollects.append_group hq ?_⟩
        rw [← hsplit, readAll_append_singleton]
        exact hempty

end Outline

end Guideline.Source

namespace Guideline.SourceFile

open Source Brace

theorem bracesIn_signals (f : SourceFile) : bracesIn f.signals = f.braces :=
  bracesIn_signalsFrom 1 _

/-- The blocks around a place in a file, innermost first, given the braces before it. -/
def blocksAround (f : SourceFile) (u : List Brace) : List Block :=
  (unclosed 0 u).reverse.filterMap (f.blocks[·]?)

/-- The kind of the innermost block around a place. -/
def scopeAt (f : SourceFile) (u : List Brace) : Scope :=
  ((f.blocksAround u).head?.map Block.kind).getD .file

/-- The name of the innermost class around a place. -/
def classNameAt (f : SourceFile) (u : List Brace) : Option String :=
  ((f.blocksAround u).find? (·.kind == .classBody)).bind Block.name

/-- The statement number `k` is collected from `text` and ended by the character behind it. -/
structure StandsAt (f : SourceFile) (k : Nat) (s : Statement) (start text : List Signal) : Prop where
  collects : Outline.Collects start text
  before : (Outline.readAll {} (start ++ text)).statements.toList = f.statements.take k
  ended : ∃ line after, f.signals = start ++ text ++ .char line s.ending.char :: after ∧
    (Outline.readAll {} (start ++ text ++ [.char line s.ending.char])).statements.toList =
      f.statements.take (k + 1)

section

variable {content : List Char} {before after : List Signal}

theorem outline_parse (content : List Char) :
    (parse content).blocks = (Outline.readAll {} (parse content).signals).blocks.toList ∧
      (parse content).statements = (Outline.readAll {} (parse content).signals).statements.toList := by
  rw [signals, ← Outline.feedLines_eq_readAll]
  exact ⟨rfl, rfl⟩

/-- Blocks keep their kind and name until the end of the file. -/
theorem getElem?_labels (h : (parse content).signals = before ++ after) {i : Nat} {l : Scope × Option String}
    (hl : (Outline.readAll {} before).labels[i]? = some l) :
    ((parse content).blocks[i]?).map Block.label = some l := by
  obtain ⟨rest, hrest⟩ := (Outline.readAll {} before).labels_isPrefix_readAll after
  have hlt := (List.getElem?_eq_some_iff.1 hl).1
  rw [← List.getElem?_map, (outline_parse content).1, h, Outline.readAll_append]
  show ((Outline.readAll {} before).readAll after).labels[i]? = some l
  rw [← hrest, List.getElem?_append_left hlt]
  exact hl

/-- The blocks around a place are those that are open there. -/
theorem map_label_blocksAround (h : (parse content).signals = before ++ after) :
    ((parse content).blocksAround (bracesIn before)).map Block.label =
      (Outline.readAll {} before).stack.map OpenBlock.label := by
  have htraced := Outline.traced_readAll before
  rw [blocksAround, ← htraced.indices, Outline.openIndices, List.filterMap_map, List.map_filterMap,
    ← List.filterMap_eq_map]
  exact List.filterMap_congr fun b hb => getElem?_labels h (htraced.label b hb)

theorem scopeAt_eq (h : (parse content).signals = before ++ after) :
    (parse content).scopeAt (bracesIn before) = (Outline.readAll {} before).scope := by
  have hhead := congrArg (fun l => (l.head?.map Prod.fst).getD .file) (map_label_blocksAround h)
  simp only [List.head?_map, Option.map_map] at hhead
  rw [scopeAt, Outline.scope]
  refine Eq.trans hhead ?_
  cases (Outline.readAll {} before).stack <;> rfl

theorem classNameAt_eq (h : (parse content).signals = before ++ after) :
    (parse content).classNameAt (bracesIn before) = (Outline.readAll {} before).className := by
  have hfind := congrArg (fun l => (l.find? (·.1 == Scope.classBody)).bind Prod.snd) (map_label_blocksAround h)
  simp only [List.find?_map, Option.bind_map] at hfind
  exact hfind

/-- The kind of a block is allowed where its brace stands, and if a block around it lists values it is an
initializer. -/
theorem allows_of_opening {n : Nat} (h : (parse content).signals = before ++ .char n '{' :: after) :
    ∃ b, (parse content).blocks[(openLines (bracesIn before)).length]? = some b ∧
      ((parse content).scopeAt (bracesIn before)).Allows b.kind ∧
      ∀ e ∈ (parse content).blocksAround (bracesIn before), e.kind.isListing = true → b.kind = .initializer := by
  have htraced := Outline.traced_readAll before
  obtain ⟨block, entry, hopens⟩ := (Outline.readAll {} before).exists_opens n
  have hread : (Outline.readAll {} (before ++ [.char n '{'])).labels =
      (Outline.readAll {} before).labels ++ [block.label] := by
    rw [Outline.readAll_append_singleton, Outline.read_opening, hopens.labels]
  have hsize : (Outline.readAll {} before).labels.length = (openLines (bracesIn before)).length := by
    rw [← htraced.size]
    simp [Outline.labels]
  have hlast : (Outline.readAll {} (before ++ [.char n '{'])).labels[(openLines (bracesIn before)).length]? =
      some block.label := by
    rw [hread, ← hsize, List.getElem?_concat_length]
  have hsplit : (parse content).signals = before ++ [.char n '{'] ++ after := by simp [h]
  obtain ⟨b, hb, hlabel⟩ := Option.map_eq_some_iff.1 (getElem?_labels hsplit hlast)
  have hkind : b.kind = block.kind := congrArg Prod.fst hlabel
  have hallows := Scope.allows_ofHead (Outline.readAll {} before).scope
    (chars (Outline.readAll {} before).pendingText)
  rw [← hopens.kind, ← hkind] at hallows
  refine ⟨b, hb, ?_, fun e he hlisting => ?_⟩
  · rw [scopeAt_eq h]
    exact hallows
  · have hmem : e.label ∈ (Outline.readAll {} before).stack.map OpenBlock.label := by
      rw [← map_label_blocksAround h]
      exact List.mem_map_of_mem he
    obtain ⟨opened, hopened, heq⟩ := List.mem_map.1 hmem
    have hsame : opened.kind = e.kind := congrArg Prod.fst heq
    exact hallows.listing (htraced.scope_of_mem hopened (hsame ▸ hlisting))

/-- Statements that are there stay the first ones. -/
theorem statements_readAll_eq_take (h : (parse content).signals = before ++ after) :
    (Outline.readAll {} before).statements.toList =
      (parse content).statements.take (Outline.readAll {} before).statements.size := by
  have hbegins := (Outline.readAll {} before).statements_isPrefix_readAll after
  rw [← Outline.readAll_append, ← h, ← (outline_parse content).2] at hbegins
  rw [← Array.length_toList]
  exact List.prefix_iff_eq_take.1 hbegins

/-- Every statement of the file stands somewhere, and is what is pending there. -/
theorem exists_standsAt {k : Nat} {s : Statement} (hs : (parse content).statements[k]? = some s) :
    ∃ start text, (parse content).StandsAt k s start text ∧ (Outline.readAll {} (start ++ text)).Ends s := by
  rw [(outline_parse content).2, Array.getElem?_toList] at hs
  obtain ⟨before, line, after, hsignals, hends, hk, hpush⟩ := Outline.exists_ends_of_getElem?_statements hs
  obtain ⟨start, text, rfl, hcollects⟩ := Outline.exists_collects before
  have hsplit : (parse content).signals = start ++ text ++ [.char line s.ending.char] ++ after := by
    simpa using hsignals
  refine ⟨start, text, ⟨hcollects, ?_, line, after, hsignals, ?_⟩, hends⟩
  · rw [statements_readAll_eq_take hsignals, hk]
  · rw [statements_readAll_eq_take hsplit, hpush, Array.size_push, hk]

end

/-- In the tree that the braces of a file make of its blocks, no block is a file, a function stands in the
file, in a namespace or in a class, and all blocks anywhere in an enumeration or an initializer are
initializers. No initializer ends a statement, the body of a function does only where one may stand, and every
statement carries the kind of the innermost block and the name of the innermost class around it. -/
theorem blocks_nest (content : List Char) :
    (∀ i b, (parse content).blocks[i]? = some b →
      ∃ u v, (parse content).braces = u ++ opening b.openLine :: v ∧ (openLines u).length = i ∧
        ((parse content).scopeAt u).Allows b.kind ∧
        ∀ e ∈ (parse content).blocksAround u, e.kind.isListing = true → b.kind = .initializer) ∧
    ∀ k s, (parse content).statements[k]? = some s →
      ∃ start text, (parse content).StandsAt k s start text ∧
        s.ending ≠ .opens .initializer ∧
        (s.ending = .opens .functionBody → s.scope.isDeclarative = true) ∧
        s.scope = (parse content).scopeAt (bracesIn (start ++ text)) ∧
        s.className = (parse content).classNameAt (bracesIn (start ++ text)) := by
  refine ⟨fun i b hb => ?_, fun k s hs => ?_⟩
  · have hlines : (openLines (parse content).braces)[i]? = some b.openLine := by
      rw [← map_fst_matching, ← map_blocks, List.map_map, List.getElem?_map, hb]
      rfl
    obtain ⟨u, v, hbraces, rfl⟩ := exists_of_getElem?_openLines hlines
    obtain ⟨before, x, after, hsignals, hx, rfl, -⟩ :=
      exists_of_bracesIn_eq ((bracesIn_signals (parse content)).trans hbraces)
    obtain rfl := Signal.eq_char_of_brace? hx
    obtain ⟨b', hb', hallows, hlisting⟩ := allows_of_opening hsignals
    obtain rfl : b = b' := Option.some.inj (hb.symm.trans hb')
    exact ⟨_, v, hbraces, rfl, hallows, hlisting⟩
  · obtain ⟨start, text, hstands, hends⟩ := exists_standsAt hs
    obtain ⟨line, after, hsignals, -⟩ := hstands.ended
    refine ⟨start, text, hstands, fun heq => ?_, fun heq => ?_, ?_, ?_⟩
    · exact (hends.fits _ heq).2 rfl
    · rw [hends.scope]
      exact (Scope.allows_ofHead _ _).function (hends.fits _ heq).1.symm
    · rw [hends.scope, scopeAt_eq hsignals]
    · rw [hends.className, classNameAt_eq hsignals]

end Guideline.SourceFile
