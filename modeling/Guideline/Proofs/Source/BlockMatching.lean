import Guideline.Proofs.Source.Brace
import Guideline.Source.File
import Mathlib.Data.List.Nodup

/-!
# Blocks and matching braces

The outline of a file is read with a stack of open blocks. Reading it, the list of blocks that the
outline is going to have (`Outline.expected`: what it has, closed as the braces to come will close it,
and the blocks to come) stays the same, and so do the closing braces that will be left over. At the
end of the file they are the blocks and stray closing braces themselves.
-/

namespace Guideline.Source

open Brace

/-- The braces of a line of masked code. -/
def bracesOn (line : Nat) (code : List Char) : List Brace :=
  code.filterMap fun c =>
    if c = '{' then some (opening line) else if c = '}' then some (closing line) else none

/-- The braces of lines of masked code, the first of which has the number `line`, that are not
directive lines. -/
def bracesFrom (line : Nat) : List (List Char × Bool) → List Brace
  | [] => []
  | (code, isDirective) :: rest =>
    (if isDirective then [] else bracesOn line code) ++ bracesFrom (line + 1) rest

namespace Outline

/-- The places of the open blocks in the list of blocks, innermost first. -/
def openIndices (o : Outline) : List Nat :=
  o.stack.map OpenBlock.index

/-- The line that a block will be closed on, given the braces to come. -/
def expectedClose (o : Outline) (w : List Brace) (i : Nat) (b : Block) : Option Nat :=
  match o.openIndices.idxOf? i with
  | some depth => closer? depth w
  | none => b.closeLine

/-- The lines of the blocks that the outline will have, given the braces to come. -/
def expected (o : Outline) (w : List Brace) : List (Nat × Option Nat) :=
  o.blocks.toList.mapIdx (fun i b => (b.openLine, o.expectedClose w i b)) ++ matching w

/-- The lines of the closing braces that will be left over. -/
def expectedStrays (o : Outline) (w : List Brace) : List Nat :=
  o.strayCloses.toList ++ strays o.stack.length w

/-- The stack refers to each open block once. -/
structure StackInv (o : Outline) : Prop where
  nodup : o.openIndices.Nodup
  isOpen : ∀ i ∈ o.openIndices, ∃ b, o.blocks[i]? = some b ∧ b.closeLine = none

/-- Reading the braces `u` takes the outline to `o'` and keeps what is expected of it. -/
def Leads (o : Outline) (u : List Brace) (o' : Outline) : Prop :=
  o.StackInv → o'.StackInv ∧
    ∀ w, o'.expected w = o.expected (u ++ w) ∧ o'.expectedStrays w = o.expectedStrays (u ++ w)

section

variable {o o' o'' : Outline} {u v : List Brace}

theorem Leads.trans (h : o.Leads u o') (h' : o'.Leads v o'') : o.Leads (u ++ v) o'' := by
  intro hinv
  obtain ⟨hinv', h⟩ := h hinv
  obtain ⟨hinv'', h'⟩ := h' hinv'
  refine ⟨hinv'', fun w => ?_⟩
  rw [(h' w).1, (h' w).2, (h _).1, (h _).2, List.append_assoc]
  exact ⟨rfl, rfl⟩

theorem leads_of_eq (hb : o'.blocks = o.blocks) (hs : o'.stack = o.stack)
    (ht : o'.strayCloses = o.strayCloses) : o.Leads [] o' := by
  intro hinv
  have hi : o'.openIndices = o.openIndices := by rw [openIndices, hs, openIndices]
  refine ⟨⟨hi ▸ hinv.nodup, fun i h => ?_⟩, fun w => ⟨?_, ?_⟩⟩
  · rw [hb]
    exact hinv.isOpen i (hi ▸ h)
  · simp only [expected, expectedClose, hb, hi, List.nil_append]
  · simp only [expectedStrays, hs, ht, List.nil_append]

theorem Leads.refl (o : Outline) : o.Leads [] o :=
  leads_of_eq rfl rfl rfl

end

section

variable (o : Outline)

@[simp]
theorem blocks_endStatement (ending : Ending) : (o.endStatement ending).blocks = o.blocks := by
  simp only [endStatement]
  split <;> rfl

@[simp]
theorem stack_endStatement (ending : Ending) : (o.endStatement ending).stack = o.stack := by
  simp only [endStatement]
  split <;> rfl

@[simp]
theorem strayCloses_endStatement (ending : Ending) :
    (o.endStatement ending).strayCloses = o.strayCloses := by
  simp only [endStatement]
  split <;> rfl

theorem pending_endStatement (ending : Ending) : (o.endStatement ending).pending = #[] := by
  simp only [endStatement]
  split <;> rfl

theorem pending_openBlock (line : Nat) : (o.openBlock line).pending = #[] := by
  simp only [openBlock]
  split
  · rfl
  · exact pending_endStatement o _

theorem strayCloses_openBlock (line : Nat) : (o.openBlock line).strayCloses = o.strayCloses := by
  simp only [openBlock]
  split
  · rfl
  · exact strayCloses_endStatement o _

theorem blocks_openBlock (line : Nat) : ∃ b : Block,
    (o.openBlock line).blocks = o.blocks.push b ∧ b.openLine = line ∧ b.closeLine = none ∧
      b.headerLine = (o.pendingText.head?.map Located.line).getD line :=
  ⟨_, rfl, rfl, rfl, rfl⟩

theorem openIndices_openBlock (line : Nat) :
    (o.openBlock line).openIndices = o.blocks.size :: o.openIndices :=
  rfl

end

theorem StackInv.lt_size {o : Outline} (h : o.StackInv) {i : Nat} (hi : i ∈ o.openIndices) :
    i < o.blocks.size := by
  obtain ⟨b, hb, -⟩ := h.isOpen i hi
  exact (Array.getElem?_eq_some_iff.1 hb).1

theorem leads_openBlock (o : Outline) (line : Nat) : o.Leads [opening line] (o.openBlock line) := by
  intro hinv
  obtain ⟨b, hb, hline, hclose, -⟩ := o.blocks_openBlock line
  have hi := o.openIndices_openBlock line
  have hnew : o.blocks.size ∉ o.openIndices := fun h => Nat.lt_irrefl _ (hinv.lt_size h)
  refine ⟨⟨hi ▸ List.nodup_cons.2 ⟨hnew, hinv.nodup⟩, fun i h => ?_⟩, fun w => ⟨?_, ?_⟩⟩
  · rw [hb]
    rcases List.mem_cons.1 (hi ▸ h) with rfl | h
    · exact ⟨b, Array.getElem?_push_size, hclose⟩
    · rw [Array.getElem?_push, if_neg (Nat.ne_of_lt (hinv.lt_size h))]
      exact hinv.isOpen i h
  · have hold : ∀ i < o.blocks.size, ∀ b, (o.openBlock line).expectedClose w i b =
        o.expectedClose (opening line :: w) i b := by
      intro i hlt b
      have hne : (o.blocks.size == i) = false := by simpa using (Nat.ne_of_lt hlt).symm
      rw [expectedClose, expectedClose, hi, List.idxOf?_cons, hne]
      cases o.openIndices.idxOf? i <;> rfl
    have hlast : (o.openBlock line).expectedClose w o.blocks.size b = closer? 0 w := by
      rw [expectedClose, hi, List.idxOf?_cons, beq_self_eq_true]
      rfl
    rw [expected, hb, Array.toList_push, List.mapIdx_concat, Array.length_toList, hlast, hline,
      List.append_assoc]
    congr 1
    refine List.mapIdx_eq_mapIdx_iff.2 fun i hlt => ?_
    rw [hold i (by simpa using hlt)]
    rfl
  · simp only [expectedStrays, strayCloses_openBlock]
    rfl

theorem closeBlock_of_nil {o : Outline} (h : o.stack = []) (line : Nat) :
    (o.closeBlock line).blocks = o.blocks ∧ (o.closeBlock line).stack = [] ∧
      (o.closeBlock line).strayCloses = o.strayCloses.push line := by
  rw [closeBlock, h]
  exact ⟨rfl, rfl, rfl⟩

theorem closeBlock_of_cons {o : Outline} {b : OpenBlock} {outer : List OpenBlock}
    (h : o.stack = b :: outer) (line : Nat) :
    (o.closeBlock line).blocks =
        o.blocks.modify b.index (fun block => { block with closeLine := some line }) ∧
      (o.closeBlock line).stack = outer ∧ (o.closeBlock line).strayCloses = o.strayCloses := by
  rw [closeBlock, h]
  refine ⟨?_, rfl, ?_⟩
  · simp only [blocks_endStatement]
  · simp only [strayCloses_endStatement]

theorem openIndices_closeBlock_of_cons {o : Outline} {b : OpenBlock} {outer : List OpenBlock}
    (h : o.stack = b :: outer) (line : Nat) :
    o.openIndices = b.index :: (o.closeBlock line).openIndices := by
  obtain ⟨-, hs, -⟩ := closeBlock_of_cons h line
  rw [openIndices, openIndices, h, hs]
  rfl

theorem expected_closeBlock_of_cons {o : Outline} (hinv : o.StackInv) {b : OpenBlock}
    {outer : List OpenBlock} (h : o.stack = b :: outer) (line : Nat) (w : List Brace) :
    (o.closeBlock line).expected w = o.expected (closing line :: w) := by
  have hi := openIndices_closeBlock_of_cons h line
  have hnot := (List.nodup_cons.1 (hi ▸ hinv.nodup)).1
  obtain ⟨hb, -, -⟩ := closeBlock_of_cons h line
  rw [expected, expected, hb, matching, Array.toList_modify]
  congr 1
  refine List.ext_getElem? fun i => ?_
  rw [List.getElem?_mapIdx, List.getElem?_mapIdx, List.getElem?_modify]
  cases o.blocks.toList[i]? with
  | none => simp
  | some block =>
    -- The block is the one that is closed here, or its place on the stack moves up.
    by_cases hne : b.index = i
    · subst hne
      have hnone : (o.closeBlock line).openIndices.idxOf? b.index = none :=
        List.idxOf?_eq_none_iff.2 hnot
      simp [expectedClose, hnone, hi, List.idxOf?_cons, closer?]
    · have hbeq : (b.index == i) = false := by simpa using hne
      simp only [expectedClose, hi, List.idxOf?_cons, hbeq, if_neg hne]
      cases (o.closeBlock line).openIndices.idxOf? i <;> rfl

theorem leads_closeBlock (o : Outline) (line : Nat) : o.Leads [closing line] (o.closeBlock line) := by
  intro hinv
  cases hstack : o.stack with
  | nil =>
    obtain ⟨hb, hs, ht⟩ := closeBlock_of_nil hstack line
    have hi : o.openIndices = [] := by rw [openIndices, hstack]; rfl
    have hi' : (o.closeBlock line).openIndices = [] := by rw [openIndices, hs]; rfl
    refine ⟨⟨by simp [hi'], by simp [hi']⟩, fun w => ⟨?_, ?_⟩⟩
    · simp only [expected, expectedClose, hb, hi, hi']
      rfl
    · simp only [expectedStrays, hs, ht, hstack, Array.toList_push, List.append_assoc]
      rfl
  | cons b outer =>
    obtain ⟨hb, hs, ht⟩ := closeBlock_of_cons hstack line
    have hi := openIndices_closeBlock_of_cons hstack line
    obtain ⟨hnot, hnodup⟩ := List.nodup_cons.1 (hi ▸ hinv.nodup)
    refine ⟨⟨hnodup, fun i h => ?_⟩, fun w => ⟨expected_closeBlock_of_cons hinv hstack line w, ?_⟩⟩
    · have hne : b.index ≠ i := by
        rintro rfl
        exact hnot h
      rw [hb, Array.getElem?_modify, if_neg hne]
      exact hinv.isOpen i (hi ▸ List.mem_cons_of_mem _ h)
    · simp only [expectedStrays, hs, ht, hstack, List.length_cons]
      rfl

theorem step_opening (o : Outline) (line : Nat) : o.step line '{' = o.openBlock line := by
  simp [step]

theorem step_closing (o : Outline) (line : Nat) : o.step line '}' = o.closeBlock line := by
  simp [step]

theorem leads_step_of_ne (o : Outline) (line : Nat) {c : Char} (ho : c ≠ '{') (hc : c ≠ '}') :
    o.Leads [] (o.step line c) := by
  rw [step, if_neg ho, if_neg hc]
  split_ifs
  · exact leads_of_eq rfl rfl rfl
  · exact leads_of_eq rfl rfl rfl
  · exact leads_of_eq (blocks_endStatement o _) (stack_endStatement o _) (strayCloses_endStatement o _)
  · exact leads_of_eq rfl rfl rfl

theorem leads_step (o : Outline) (line : Nat) (c : Char) :
    o.Leads (bracesOn line [c]) (o.step line c) := by
  by_cases ho : c = '{'
  · subst ho
    rw [step_opening]
    exact leads_openBlock o line
  by_cases hc : c = '}'
  · subst hc
    rw [step_closing]
    exact leads_closeBlock o line
  · have hnone : bracesOn line [c] = [] := by simp [bracesOn, ho, hc]
    rw [hnone]
    exact leads_step_of_ne o line ho hc

theorem bracesOn_cons (line : Nat) (c : Char) (code : List Char) :
    bracesOn line (c :: code) = bracesOn line [c] ++ bracesOn line code := by
  rw [bracesOn, bracesOn, bracesOn, ← List.filterMap_append]
  rfl

theorem leads_foldl_step (o : Outline) (line : Nat) (code : List Char) :
    o.Leads (bracesOn line code) (code.foldl (fun o c => o.step line c) o) := by
  induction code generalizing o with
  | nil => exact .refl o
  | cons c code ih =>
    rw [bracesOn_cons, List.foldl_cons]
    exact (leads_step o line c).trans (ih _)

theorem leads_endLine (o : Outline) (line : Nat) : o.Leads [] (o.endLine line) := by
  rw [endLine]
  split_ifs
  · exact .refl o
  · exact leads_of_eq rfl rfl rfl

theorem leads_feedLine (o : Outline) (line : Nat) (code : List Char) :
    o.Leads (bracesOn line code) (o.feedLine line code) := by
  have h := (leads_foldl_step o line code).trans (leads_endLine _ line)
  rwa [List.append_nil] at h

theorem leads_feedLines (o : Outline) (line : Nat) (ls : List (List Char × Bool)) :
    o.Leads (bracesFrom line ls) (o.feedLines line ls) := by
  induction ls generalizing o line with
  | nil => exact .refl o
  | cons l ls ih =>
    obtain ⟨code, isDirective⟩ := l
    rw [bracesFrom, feedLines]
    cases isDirective with
    | false => exact (leads_feedLine o line code).trans (ih _ _)
    | true => exact ih o (line + 1)

theorem stackInv_empty : StackInv {} :=
  ⟨List.nodup_nil, by simp [openIndices]⟩

/-- Once no brace is to come, the expected blocks are those there are. -/
theorem StackInv.expected_nil {o : Outline} (h : o.StackInv) :
    o.expected [] = o.blocks.toList.map fun b => (b.openLine, b.closeLine) := by
  have hclose : ∀ i b, o.blocks[i]? = some b → o.expectedClose [] i b = b.closeLine := by
    intro i b hb
    rw [expectedClose]
    cases hi : o.openIndices.idxOf? i with
    | none => rfl
    | some d =>
      have hmem : i ∈ o.openIndices := by
        by_contra hmem
        rw [List.idxOf?_eq_none_iff.2 hmem] at hi
        contradiction
      obtain ⟨b', hb', hnone⟩ := h.isOpen i hmem
      rw [hb, Option.some.injEq] at hb'
      rw [hb', hnone]
      rfl
  rw [expected, matching, List.append_nil]
  refine List.ext_getElem? fun i => ?_
  rw [List.getElem?_mapIdx, List.getElem?_map, Array.getElem?_toList]
  cases hb : o.blocks[i]? with
  | none => rfl
  | some b => simp [hclose i b hb]

/-- The blocks of an outline are the opening braces with their matches. -/
theorem map_blocks_feedLines (line : Nat) (ls : List (List Char × Bool)) :
    ((feedLines {} line ls).blocks.toList.map fun b => (b.openLine, b.closeLine)) =
      matching (bracesFrom line ls) := by
  obtain ⟨hinv, h⟩ := leads_feedLines {} line ls stackInv_empty
  rw [← hinv.expected_nil, (h []).1, List.append_nil]
  rfl

theorem strayCloses_feedLines (line : Nat) (ls : List (List Char × Bool)) :
    (feedLines {} line ls).strayCloses.toList = strays 0 (bracesFrom line ls) := by
  obtain ⟨-, h⟩ := leads_feedLines {} line ls stackInv_empty
  have hstrays := (h []).2
  rw [expectedStrays, strays, List.append_nil, List.append_nil] at hstrays
  rw [hstrays]
  rfl

end Outline

/-! ### Lines of heads -/

/-- The text comes from the lines up to `n`. -/
def IsWithin (n : Nat) (text : List Located) : Prop :=
  ∀ l ∈ text, 1 ≤ l.line ∧ l.line ≤ n

theorem IsWithin.mono {n m : Nat} (h : n ≤ m) {text : List Located} (ht : IsWithin n text) :
    IsWithin m text :=
  fun l hl => ⟨(ht l hl).1, Nat.le_trans (ht l hl).2 h⟩

theorem isWithin_nil (n : Nat) : IsWithin n [] := by
  simp [IsWithin]

theorem mem_of_mem_stripLabels {text : List Located} {l : Located} (h : l ∈ stripLabels text) :
    l ∈ text := by
  rw [stripLabels, trimLocated, List.mem_reverse] at h
  have h' := (List.dropWhile_sublist _).mem h
  rw [List.mem_reverse] at h'
  exact List.mem_of_mem_drop ((List.dropWhile_sublist _).mem h')

theorem forall_mem_modify {α : Type} {p : α → Prop} {f : α → α} (hf : ∀ a, p a → p (f a))
    {l : List α} (h : ∀ a ∈ l, p a) (i : Nat) : ∀ a ∈ l.modify i f, p a := by
  intro a ha
  obtain ⟨j, hj⟩ := List.mem_iff_getElem?.1 ha
  rw [List.getElem?_modify, Option.map_eq_map, Option.map_eq_some_iff] at hj
  obtain ⟨a', ha', rfl⟩ := hj
  have hp := h a' (List.mem_of_getElem? ha')
  split_ifs
  · exact hf a' hp
  · exact hp

namespace Outline

/-- All text that waits comes from the lines up to `n`, and no block starts behind its brace. -/
structure LineInv (n : Nat) (o : Outline) : Prop where
  pending : IsWithin n o.pending.toList
  interrupted : ∀ b ∈ o.stack, IsWithin n b.interrupted
  header : ∀ b ∈ o.blocks.toList, 1 ≤ b.headerLine ∧ b.headerLine ≤ b.openLine

namespace LineInv

variable {o : Outline} {n : Nat}

theorem mono {m : Nat} (hnm : n ≤ m) (h : o.LineInv n) : o.LineInv m :=
  ⟨h.pending.mono hnm, fun b hb => (h.interrupted b hb).mono hnm, h.header⟩

theorem empty (n : Nat) : LineInv n {} :=
  ⟨isWithin_nil n, by simp, by simp⟩

theorem pendingText (h : o.LineInv n) : IsWithin n o.pendingText :=
  fun l hl => h.pending l (mem_of_mem_stripLabels hl)

theorem push (hn : 1 ≤ n) (h : o.LineInv n) (c : Char) : (o.push c n).LineInv n where
  pending l hl := by
    rw [Outline.push, Array.toList_push] at hl
    rcases List.mem_append.1 hl with hl | hl
    · exact h.pending l hl
    · rw [List.mem_singleton.1 hl]
      exact ⟨hn, Nat.le_refl n⟩
  interrupted := h.interrupted
  header := h.header

theorem endStatement (h : o.LineInv n) (ending : Ending) : (o.endStatement ending).LineInv n where
  pending := by
    rw [pending_endStatement]
    exact isWithin_nil n
  interrupted b hb := h.interrupted b (by rwa [stack_endStatement] at hb)
  header b hb := h.header b (by rwa [blocks_endStatement] at hb)

theorem openBlock (hn : 1 ≤ n) (h : o.LineInv n) : (o.openBlock n).LineInv n where
  pending := by
    rw [pending_openBlock]
    exact isWithin_nil n
  interrupted b hb := by
    rcases List.mem_cons.1 hb with rfl | hb
    · show IsWithin n (if _ then _ else _)
      split_ifs
      · exact h.pendingText
      · exact isWithin_nil n
    · exact h.interrupted b hb
  header b hb := by
    obtain ⟨b', hb', hline, -, hhead⟩ := o.blocks_openBlock n
    rw [hb', Array.toList_push] at hb
    rcases List.mem_append.1 hb with hb | hb
    · exact h.header b hb
    · rw [List.mem_singleton.1 hb, hhead, hline]
      cases hfirst : o.pendingText.head? with
      | none => exact ⟨hn, Nat.le_refl n⟩
      | some l => exact h.pendingText l (List.mem_of_head? hfirst)

theorem closeBlock (hn : 1 ≤ n) (h : o.LineInv n) : (o.closeBlock n).LineInv n := by
  cases hstack : o.stack with
  | nil =>
    rw [Outline.closeBlock, hstack]
    exact ⟨isWithin_nil n, by simp, h.header⟩
  | cons b outer =>
    obtain ⟨hb, hs, -⟩ := closeBlock_of_cons hstack n
    refine ⟨?_, fun b' hb' => h.interrupted b' (by rw [hstack]; exact List.mem_cons_of_mem _ (hs ▸ hb')),
      ?_⟩
    · rw [Outline.closeBlock, hstack]
      show IsWithin n (if _ then _ else _ : Array Located).toList
      split_ifs
      · intro l hl
        rcases List.mem_append.1 hl with hl | hl
        · exact h.interrupted b (by simp [hstack]) l hl
        · have hline : l.line = n := by
            rcases List.mem_pair.1 hl with rfl | rfl <;> rfl
          rw [hline]
          exact ⟨hn, Nat.le_refl n⟩
      · exact isWithin_nil n
    · rw [hb, Array.toList_modify]
      refine forall_mem_modify ?_ h.header b.index
      exact fun _ hp => hp

theorem step (hn : 1 ≤ n) (h : o.LineInv n) (c : Char) : (o.step n c).LineInv n := by
  have hdepth : ∀ d, LineInv n { o with depth := d } := fun d =>
    ⟨h.pending, h.interrupted, h.header⟩
  rw [Outline.step]
  split_ifs
  · exact (hdepth _).push hn c
  · exact (hdepth _).push hn c
  · exact h.endStatement .semicolon
  · exact h.openBlock hn
  · exact h.closeBlock hn
  · exact h.push hn c

theorem feedLine (hn : 1 ≤ n) (h : o.LineInv n) (code : List Char) :
    (o.feedLine n code).LineInv n := by
  have hfold : (code.foldl (fun o c => o.step n c) o).LineInv n := by
    induction code generalizing o with
    | nil => exact h
    | cons c code ih => exact ih (h.step hn c)
  rw [Outline.feedLine, endLine]
  split_ifs
  · exact hfold
  · exact hfold.push hn ' '

theorem header_feedLines (hn : 1 ≤ n) (h : o.LineInv n) (ls : List (List Char × Bool)) :
    ∀ b ∈ (o.feedLines n ls).blocks.toList, 1 ≤ b.headerLine ∧ b.headerLine ≤ b.openLine := by
  induction ls generalizing o n with
  | nil => exact h.header
  | cons l ls ih =>
    obtain ⟨code, isDirective⟩ := l
    rw [feedLines]
    cases isDirective with
    | false => exact ih (by omega) ((h.feedLine hn code).mono (Nat.le_succ n))
    | true => exact ih (by omega) (h.mono (Nat.le_succ n))

end LineInv

end Outline

/-! ### Lines of braces -/

theorem line_of_mem_bracesOn {line : Nat} {code : List Char} {x : Brace} (h : x ∈ bracesOn line code) :
    x.line = line := by
  obtain ⟨c, -, hc⟩ := List.mem_filterMap.1 h
  split_ifs at hc <;> obtain rfl := Option.some.inj hc <;> rfl

theorem line_of_mem_bracesFrom {line : Nat} {ls : List (List Char × Bool)} {x : Brace}
    (h : x ∈ bracesFrom line ls) : line ≤ x.line ∧ x.line < line + ls.length := by
  induction ls generalizing line with
  | nil => simp [bracesFrom] at h
  | cons l ls ih =>
    obtain ⟨code, isDirective⟩ := l
    rw [List.length_cons]
    rcases List.mem_append.1 h with h | h
    · have hline : x.line = line := by
        cases isDirective with
        | false => exact line_of_mem_bracesOn h
        | true => simp at h
      omega
    · have := ih h
      omega

theorem pairwise_bracesFrom (line : Nat) (ls : List (List Char × Bool)) :
    (bracesFrom line ls).Pairwise (·.line ≤ ·.line) := by
  induction ls generalizing line with
  | nil => exact .nil
  | cons l ls ih =>
    obtain ⟨code, isDirective⟩ := l
    have hline : ∀ x ∈ (if isDirective then [] else bracesOn line code), x.line = line := by
      cases isDirective with
      | false => exact fun x hx => line_of_mem_bracesOn hx
      | true => simp
    refine List.pairwise_append.2 ⟨?_, ih (line + 1), fun x hx y hy => ?_⟩
    · exact List.pairwise_of_forall_mem_list fun x hx y hy =>
        Nat.le_of_eq ((hline x hx).trans (hline y hy).symm)
    · have := (line_of_mem_bracesFrom hy).1
      rw [hline x hx]
      omega

theorem length_maskLinesFrom (region : Region) (ls : List (List Char)) :
    (maskLinesFrom region ls).length = ls.length := by
  induction ls generalizing region with
  | nil => rfl
  | cons l ls ih => rw [maskLinesFrom, List.length_cons, List.length_cons, ih]

end Guideline.Source

namespace Guideline.SourceFile

open Source Brace

/-- The braces of the masked code of a file, without those on directive lines. -/
def braces (f : SourceFile) : List Brace :=
  bracesFrom 1 (f.code.zip f.directives)

section

variable (content : List Char)

theorem length_zip_le : ((parse content).code.zip (parse content).directives).length ≤
    (parse content).lineCount := by
  rw [List.length_zip]
  refine Nat.le_trans (Nat.min_le_left _ _) (Nat.le_of_eq ?_)
  exact length_maskLinesFrom .code (Text.lines content)

theorem map_blocks : ((parse content).blocks.map fun b => (b.openLine, b.closeLine)) =
    matching (parse content).braces :=
  Outline.map_blocks_feedLines 1 _

theorem firstUnbalanced_eq : (parse content).firstUnbalanced = firstLeft (parse content).braces := by
  have hstrays : (parse content).strayCloses = strays 0 (parse content).braces :=
    Outline.strayCloses_feedLines 1 _
  have hfind : ((parse content).blocks.find? (·.closeLine.isNone)).map Block.openLine =
      ((matching (parse content).braces).find? (·.2.isNone)).map Prod.fst := by
    rw [← map_blocks, List.find?_map, Option.map_map]
    rfl
  rw [firstUnbalanced, hstrays, hfind]
  rfl

theorem line_of_mem_braces {x : Brace} (h : x ∈ (parse content).braces) :
    1 ≤ x.line ∧ x.line ≤ (parse content).lineCount := by
  have hx := line_of_mem_bracesFrom h
  have hlen := length_zip_le content
  omega

/-- The match of an opening brace is on its line or behind it. -/
theorem line_le_of_mem_matching {a n : Nat}
    (h : (a, some n) ∈ matching (parse content).braces) :
    closing n ∈ (parse content).braces ∧ a ≤ n := by
  obtain ⟨u, v, hw, hn⟩ := exists_of_mem_matching h
  obtain ⟨w, v', rfl, -⟩ := closer?_zero_eq_some_iff.1 hn.symm
  have hsorted : (parse content).braces.Pairwise (·.line ≤ ·.line) := pairwise_bracesFrom 1 _
  rw [hw] at hsorted ⊢
  have hle := (List.pairwise_cons.1 (List.pairwise_append.1 hsorted).2.1).1 (closing n) (by simp)
  exact ⟨by simp, hle⟩

theorem header_blocks : ∀ b ∈ (parse content).blocks,
    1 ≤ b.headerLine ∧ b.headerLine ≤ b.openLine :=
  (Outline.LineInv.empty 1).header_feedLines (Nat.le_refl 1) _

end

/-- The blocks of a file are its opening braces, closed where their matches are; the lines of a block
are in order and in the file; and the first line at which braces stop balancing is that of the first
brace without a match. -/
theorem blocks_match_braces (content : List Char) :
    ((parse content).blocks.map Block.openLine = openLines (parse content).braces) ∧
    (∀ u a v, (parse content).braces = u ++ opening a :: v →
      ∃ b, (parse content).blocks[(openLines u).length]? = some b ∧ b.openLine = a ∧
        ∀ n, b.closeLine = some n ↔ ∃ w v', v = w ++ closing n :: v' ∧ Balanced w) ∧
    (∀ b ∈ (parse content).blocks, 1 ≤ b.headerLine ∧ b.headerLine ≤ b.openLine ∧
      b.openLine ≤ (parse content).lineCount ∧
      ∀ n, b.closeLine = some n → b.openLine ≤ n ∧ n ≤ (parse content).lineCount) ∧
    ((parse content).firstUnbalanced = none ↔ Balanced (parse content).braces) ∧
    ∀ n, (parse content).firstUnbalanced = some n ↔
      ∃ x, FirstUnmatched (parse content).braces x ∧ x.line = n := by
  have hblocks := map_blocks content
  have hsorted : (parse content).braces.Pairwise (·.line ≤ ·.line) := pairwise_bracesFrom 1 _
  refine ⟨?_, fun u a v hw => ?_, fun b hb => ?_, ?_, fun n => ?_⟩
  · rw [← map_fst_matching, ← hblocks, List.map_map]
    rfl
  · have hget := matching_append_opening u v a
    rw [← hw, ← hblocks, List.getElem?_map, Option.map_eq_some_iff] at hget
    obtain ⟨b, hb, hlines⟩ := hget
    obtain ⟨hline, hclose⟩ := Prod.mk.inj hlines
    exact ⟨b, hb, hline, fun n => by rw [hclose, closer?_zero_eq_some_iff]⟩
  · have hmem : (b.openLine, b.closeLine) ∈ matching (parse content).braces := by
      rw [← hblocks]
      exact List.mem_map_of_mem hb
    obtain ⟨hpos, hle⟩ := header_blocks content b hb
    obtain ⟨u, v, hw, -⟩ := exists_of_mem_matching hmem
    refine ⟨hpos, hle, (line_of_mem_braces content (x := opening b.openLine) ?_).2, fun n hn => ?_⟩
    · rw [hw]
      simp
    · rw [hn] at hmem
      obtain ⟨hclosing, hle⟩ := line_le_of_mem_matching content hmem
      exact ⟨hle, (line_of_mem_braces content hclosing).2⟩
  · rw [firstUnbalanced_eq]
    exact firstLeft_eq_none_iff hsorted
  · rw [firstUnbalanced_eq]
    exact firstLeft_eq_some_iff hsorted

end Guideline.SourceFile
