import Guideline.Proofs.Source.BlockMatching
import Guideline.Proofs.Source.TokenPlace

/-!
# Where the words of a statement come from

Text is collected from many lines, cut at labels and trimmed, and set aside and taken up again around
braced initializers. No word comes apart or is put together on the way: each word of a statement is a
whole word of the line that its characters carry (`Settled`). While a line is being read the last word
may still grow, so the pending text is settled up to its last word, which is the one at the end of what
has been read of the line (`Collected`).
-/

namespace Guideline.Source

/-! ### Words of located text -/

/-- The words of located text: its runs of identifier characters. -/
def wordsOf (text : List Located) : List (List Located) :=
  (text.splitOnP fun l => !isIdentChar l.char).filter fun w => !w.isEmpty

theorem wordsOf_nil : wordsOf [] = [] := rfl

theorem wordsOf_append_cons {l : Located} (hl : isIdentChar l.char = false) (a b : List Located) :
    wordsOf (a ++ l :: b) = wordsOf a ++ wordsOf b := by
  rw [wordsOf, List.splitOnP_append_cons a b (by simp [hl]), List.filter_append]
  rfl

theorem wordsOf_word {w : List Located} (hne : w ≠ []) (hw : ∀ l ∈ w, isIdentChar l.char = true) :
    wordsOf w = [w] := by
  rw [wordsOf, List.splitOnP_eq_singleton fun l hl => by simp [hw l hl]]
  simp [hne]

theorem wordsOf_append_separated {a : List Located} (ha : ∀ c ∈ (chars a).getLast?, isIdentChar c = false)
    (b : List Located) : wordsOf (a ++ b) = wordsOf a ++ wordsOf b := by
  rcases List.eq_nil_or_concat a with rfl | ⟨a, l, rfl⟩
  · rfl
  · rw [List.concat_eq_append] at ha ⊢
    have hl : isIdentChar l.char = false := ha l.char (by simp [chars])
    have hend := wordsOf_append_cons hl a []
    rw [wordsOf_nil, List.append_nil] at hend
    rw [List.append_assoc, List.singleton_append, wordsOf_append_cons hl, hend]

theorem wordsOf_append_of_head {b : List Located} (hb : ∀ c ∈ (chars b).head?, isIdentChar c = false)
    (a : List Located) : wordsOf (a ++ b) = wordsOf a ++ wordsOf b := by
  cases b with
  | nil => simp [wordsOf_nil]
  | cons l b =>
    have hl : isIdentChar l.char = false := hb l.char rfl
    have hstart := wordsOf_append_cons hl [] b
    rw [wordsOf_nil, List.nil_append, List.nil_append] at hstart
    rw [wordsOf_append_cons hl, hstart]

/-! ### Labels -/

theorem singleColon?_eq_some {cs : List Char} {n : Nat} (h : singleColon? cs = some n) :
    ∃ p q, cs = p ++ ':' :: q ∧ n = p.length := by
  fun_induction singleColon? cs generalizing n with
  | case1 => cases h
  | case2 rest ih =>
    obtain ⟨m, hm, rfl⟩ := Option.map_eq_some_iff.1 h
    obtain ⟨p, q, rfl, rfl⟩ := ih hm
    exact ⟨':' :: ':' :: p, q, rfl, rfl⟩
  | case3 rest =>
    cases h
    exact ⟨[], rest, rfl, rfl⟩
  | case4 c rest _ _ ih =>
    obtain ⟨m, hm, rfl⟩ := Option.map_eq_some_iff.1 h
    obtain ⟨p, q, rfl, rfl⟩ := ih hm
    exact ⟨c :: p, q, rfl, rfl⟩

/-- A label ends in a colon. -/
theorem labelLength?_eq_some {cs : List Char} {n : Nat} (h : labelLength? cs = some n) :
    ∃ p q, cs = p ++ ':' :: q ∧ n = p.length + 1 := by
  simp only [labelLength?, Option.map_eq_some_iff] at h
  obtain ⟨k, hk, rfl⟩ := h
  generalize hafter : (cs.dropWhile Text.isBlank).dropWhile isIdentChar = after at hk ⊢
  have hcolon : ∃ u v, after = u ++ ':' :: v ∧ k = u.length := by
    split_ifs at hk
    · split at hk
      · cases hk
      · rename_i rest _ hrest
        have hsplit := List.takeWhile_append_dropWhile (p := Text.isBlank) (l := after)
        rw [hrest] at hsplit
        refine ⟨_, rest, hsplit.symm, ?_⟩
        have hlen := congrArg List.length hsplit
        simp only [List.length_append, List.length_cons] at hlen
        have := Option.some.inj hk
        omega
      · cases hk
    · exact singleColon?_eq_some hk
  obtain ⟨u, v, rfl, rfl⟩ := hcolon
  have hblank := List.takeWhile_append_dropWhile (p := Text.isBlank) (l := cs)
  have hident := List.takeWhile_append_dropWhile (p := isIdentChar) (l := cs.dropWhile Text.isBlank)
  rw [← hident, hafter] at hblank
  refine ⟨cs.takeWhile Text.isBlank ++ (cs.dropWhile Text.isBlank).takeWhile isIdentChar ++ u, v, ?_, ?_⟩
  · exact hblank.symm.trans (by simp)
  · have hlen := congrArg List.length hblank
    simp only [List.length_append] at hlen ⊢
    omega

theorem labelsLength_eq (cs : List Char) :
    labelsLength cs = 0 ∨ ∃ p q, cs = p ++ ':' :: q ∧ labelsLength cs = p.length + 1 := by
  fun_induction labelsLength cs with
  | case1 cs n h _ ih =>
    obtain ⟨p, q, rfl, rfl⟩ := labelLength?_eq_some h
    right
    rw [← List.singleton_append, ← List.append_assoc, List.drop_left' (by simp)] at ih ⊢
    rcases ih with hz | ⟨p', q', rfl, hl⟩
    · exact ⟨p, q, by simp, by rw [hz]⟩
    · exact ⟨p ++ ':' :: p', q', by simp, by rw [hl]; simp; omega⟩
  | case2 => exact .inl rfl

/-- Trimming takes white space off. -/
theorem exists_trimLocated (text : List Located) : ∃ a b, text = a ++ trimLocated text ++ b ∧
    (∀ l ∈ a, Text.isBlank l.char = true) ∧ ∀ l ∈ b, Text.isBlank l.char = true := by
  let blank := fun l : Located => Text.isBlank l.char
  let rest := text.dropWhile blank
  refine ⟨text.takeWhile blank, (rest.reverse.takeWhile blank).reverse, ?_, ?_, ?_⟩
  · rw [List.append_assoc, trimLocated, ← List.reverse_append, List.takeWhile_append_dropWhile,
      List.reverse_reverse, List.takeWhile_append_dropWhile]
  · exact List.all_eq_true.1 List.all_takeWhile
  · intro l hl
    exact List.all_eq_true.1 List.all_takeWhile l (List.mem_reverse.1 hl)

theorem getLast?_take_labelsLength {text : List Located} {c : Char}
    (h : c ∈ (chars (text.take (labelsLength (chars text)))).getLast?) : isIdentChar c = false := by
  rw [chars, List.map_take, ← chars] at h
  rcases labelsLength_eq (chars text) with hz | ⟨p, q, heq, hl⟩
  · rw [hz] at h
    cases h
  · rw [hl, heq, ← List.singleton_append, ← List.append_assoc, List.take_left' (by simp),
      List.getLast?_concat, Option.mem_some_iff] at h
    subst h
    decide

/-- Stripping cuts text off at places where no word is. -/
theorem exists_stripLabels (text : List Located) :
    ∃ a b, text = a ++ stripLabels text ++ b ∧ Delimits (chars a) (chars b) := by
  obtain ⟨a, b, heq, ha, hb⟩ := exists_trimLocated (text.drop (labelsLength (chars text)))
  refine ⟨text.take (labelsLength (chars text)) ++ a, b, ?_, fun c hc => ?_, fun c hc => ?_⟩
  · rw [List.append_assoc, List.append_assoc, ← List.append_assoc a, stripLabels, ← heq,
      List.take_append_drop]
  · rw [chars, List.map_append, List.getLast?_append] at hc
    cases hlast : (a.map Located.char).getLast? with
    | none =>
      rw [hlast, Option.none_or] at hc
      exact getLast?_take_labelsLength hc
    | some d =>
      rw [hlast, Option.some_or, Option.mem_some_iff] at hc
      subst hc
      obtain ⟨l, hl, rfl⟩ := List.mem_map.1 (List.mem_of_getLast? hlast)
      exact isIdentChar_eq_false_of_isBlank (ha l hl)
  · rw [chars, List.head?_map] at hc
    obtain ⟨l, hl, rfl⟩ := Option.map_eq_some_iff.1 hc
    exact isIdentChar_eq_false_of_isBlank (hb l (List.mem_of_mem_head? hl))

/-! ### Settled text -/

section

variable {S : Nat → List Char → Prop} {n : Nat} {done rest : List Char} {text : List Located}

/-- The word is a whole word of a line, the one that its characters carry. `S` gives the lines. -/
def Stands (S : Nat → List Char → Prop) (w : List Located) : Prop :=
  ∃ n code column, S n code ∧ (∀ l ∈ w, l.line = n) ∧ WordAt code column (chars w)

/-- Text from the lines up to `n`, in order, whose words all stand on lines. -/
structure Settled (S : Nat → List Char → Prop) (n : Nat) (text : List Located) : Prop where
  stands : ∀ w ∈ wordsOf text, Stands S w
  ordered : text.Pairwise (·.line ≤ ·.line)
  within : ∀ l ∈ text, l.line ≤ n

theorem settled_nil : Settled S n [] :=
  ⟨by simp [wordsOf_nil], .nil, by simp⟩

namespace Settled

theorem mono {m : Nat} (hnm : n ≤ m) (h : Settled S n text) : Settled S m text :=
  ⟨h.stands, h.ordered, fun l hl => Nat.le_trans (h.within l hl) hnm⟩

theorem of_infix {a b : List Located} (h : Settled S n (a ++ text ++ b))
    (hd : Delimits (chars a) (chars b)) : Settled S n text where
  stands w hw := by
    refine h.stands w ?_
    rw [wordsOf_append_of_head hd.2, wordsOf_append_separated hd.1]
    simp [hw]
  ordered := (List.pairwise_append.1 (List.pairwise_append.1 h.ordered).1).2.1
  within l hl := h.within l (by simp [hl])

theorem stripLabels (h : Settled S n text) : Settled S n (stripLabels text) := by
  obtain ⟨a, b, heq, hd⟩ := exists_stripLabels text
  rw [heq] at h
  exact h.of_infix hd

theorem push (h : Settled S n text) {c : Char} (hc : isIdentChar c = false) :
    Settled S n (text ++ [⟨c, n⟩]) where
  stands w hw := by
    rw [wordsOf_append_cons hc, wordsOf_nil, List.append_nil] at hw
    exact h.stands w hw
  ordered := List.pairwise_append.2 ⟨h.ordered, List.pairwise_singleton _ _, by simpa using h.within⟩
  within l hl := by
    rcases List.mem_append.1 hl with hl | hl
    · exact h.within l hl
    · exact Nat.le_of_eq (congrArg Located.line (List.mem_singleton.1 hl))

end Settled

/-- Text that is settled but for its last word, which is the word at the end of `done`, the part of
line `n` that has been read. -/
def Collected (S : Nat → List Char → Prop) (n : Nat) (done : List Char) (text : List Located) : Prop :=
  ∃ old word, text = old ++ word ∧ Settled S n old ∧
    (∀ c ∈ (chars old).getLast?, isIdentChar c = false) ∧
    (∀ l ∈ word, isIdentChar l.char = true ∧ l.line = n) ∧
    ∃ before, done = before ++ chars word ∧ ∀ c ∈ before.getLast?, isIdentChar c = false

/-- Between words nothing can grow. -/
theorem Settled.collected (h : Settled S n text)
    (hlast : ∀ c ∈ (chars text).getLast?, isIdentChar c = false)
    (hdone : ∀ c ∈ done.getLast?, isIdentChar c = false) : Collected S n done text :=
  ⟨text, [], by simp, h, hlast, by simp, done, by simp [chars], hdone⟩

namespace Collected

/-- Where no identifier character follows, the last word is complete. -/
theorem settled (h : Collected S n done text) (hline : S n (done ++ rest))
    (hrest : ∀ c ∈ rest.head?, isIdentChar c = false) : Settled S n text := by
  obtain ⟨old, word, rfl, hold, hlast, hword, before, rfl, hbefore⟩ := h
  have hlines : ∀ l ∈ word, l.line = n := fun l hl => (hword l hl).2
  refine ⟨fun w hw => ?_, ?_, fun l hl => ?_⟩
  · rw [wordsOf_append_separated hlast] at hw
    rcases List.mem_append.1 hw with hw | hw
    · exact hold.stands w hw
    · by_cases hne : word = []
      · subst hne
        cases hw
      · rw [wordsOf_word hne fun l hl => (hword l hl).1, List.mem_singleton] at hw
        subst hw
        exact ⟨n, _, before.length, hline, hlines, before, rest, rfl, rfl, hbefore, hrest⟩
  · refine List.pairwise_append.2 ⟨hold.ordered, ?_, fun l hl l' hl' => ?_⟩
    · exact List.pairwise_of_forall_mem_list fun l hl l' hl' =>
        Nat.le_of_eq ((hlines l hl).trans (hlines l' hl').symm)
    · rw [hlines l' hl']
      exact hold.within l hl
  · rcases List.mem_append.1 hl with hl | hl
    · exact hold.within l hl
    · exact Nat.le_of_eq (hlines l hl)

theorem push_separator (h : Collected S n done text) {c : Char} (hc : isIdentChar c = false)
    (hline : S n (done ++ c :: rest)) : Collected S n (done ++ [c]) (text ++ [⟨c, n⟩]) := by
  have hsettled := h.settled hline (by simpa using hc)
  exact (hsettled.push hc).collected (by simp [chars, hc]) (by simp [hc])

theorem push_ident (h : Collected S n done text) {c : Char} (hc : isIdentChar c = true) :
    Collected S n (done ++ [c]) (text ++ [⟨c, n⟩]) := by
  obtain ⟨old, word, rfl, hold, hlast, hword, before, rfl, hbefore⟩ := h
  refine ⟨old, word ++ [⟨c, n⟩], by simp, hold, hlast, fun l hl => ?_, before, by simp [chars], hbefore⟩
  rcases List.mem_append.1 hl with hl | hl
  · exact hword l hl
  · rw [List.mem_singleton.1 hl]
    exact ⟨hc, rfl⟩

theorem push (h : Collected S n done text) {c : Char} (hline : S n (done ++ c :: rest)) :
    Collected S n (done ++ [c]) (text ++ [⟨c, n⟩]) := by
  cases hc : isIdentChar c with
  | false => exact h.push_separator hc hline
  | true => exact h.push_ident hc

end Collected

theorem collected_nil (hdone : ∀ c ∈ done.getLast?, isIdentChar c = false) : Collected S n done [] :=
  settled_nil.collected (by simp [chars]) hdone

end

/-! ### The outline -/

namespace Outline

theorem located_of_mem_endStatement {o : Outline} {ending : Ending} {s : Statement}
    (h : s ∈ (o.endStatement ending).statements.toList) :
    s ∈ o.statements.toList ∨ s.located = o.pendingText := by
  rw [endStatement] at h
  split_ifs at h
  · exact .inl h
  · rw [Array.toList_push, List.mem_append, List.mem_singleton] at h
    exact h.imp_right fun h => by rw [h]

theorem located_of_mem_openBlock {o : Outline} {line : Nat} {s : Statement}
    (h : s ∈ (o.openBlock line).statements.toList) :
    s ∈ o.statements.toList ∨ s.located = o.pendingText := by
  simp only [openBlock] at h
  split_ifs at h
  · exact .inl h
  · exact located_of_mem_endStatement h

/-- The text of the outline's statements and of its interrupted statements is settled, and the pending
text is collected up to `done` on line `n`. -/
structure Placed (S : Nat → List Char → Prop) (n : Nat) (done : List Char) (o : Outline) : Prop where
  statements : ∀ s ∈ o.statements.toList, Settled S n s.located
  interrupted : ∀ b ∈ o.stack, Settled S n b.interrupted
  pending : Collected S n done o.pending.toList

namespace Placed

variable {S : Nat → List Char → Prop} {n : Nat} {done rest : List Char} {c : Char} {o : Outline}

theorem empty (S : Nat → List Char → Prop) (n : Nat) : Placed S n [] {} :=
  ⟨by simp, by simp, collected_nil (by simp)⟩

theorem pendingText (h : o.Placed S n done) (hline : S n (done ++ c :: rest))
    (hc : isIdentChar c = false) : Settled S n o.pendingText :=
  (h.pending.settled hline (by simpa using hc)).stripLabels

theorem push (h : o.Placed S n done) (hline : S n (done ++ c :: rest)) :
    (o.push c n).Placed S n (done ++ [c]) where
  statements := h.statements
  interrupted := h.interrupted
  pending := by
    rw [Outline.push, Array.toList_push]
    exact h.pending.push hline

theorem endStatement (h : o.Placed S n done) (hline : S n (done ++ c :: rest))
    (hc : isIdentChar c = false) (ending : Ending) :
    (o.endStatement ending).Placed S n (done ++ [c]) where
  statements s hs := by
    rcases located_of_mem_endStatement hs with hs | hs
    · exact h.statements s hs
    · exact hs ▸ h.pendingText hline hc
  interrupted b hb := h.interrupted b (by rwa [stack_endStatement] at hb)
  pending := by
    rw [pending_endStatement]
    exact collected_nil (by simp [hc])

theorem openBlock (h : o.Placed S n done) (hline : S n (done ++ '{' :: rest)) :
    (o.openBlock n).Placed S n (done ++ ['{']) where
  statements s hs := by
    rcases located_of_mem_openBlock hs with hs | hs
    · exact h.statements s hs
    · exact hs ▸ h.pendingText hline (by decide)
  interrupted b hb := by
    rcases List.mem_cons.1 hb with rfl | hb
    · show Settled S n (if _ then _ else _)
      split_ifs
      · exact h.pendingText hline (by decide)
      · exact settled_nil
    · exact h.interrupted b hb
  pending := by
    rw [pending_openBlock]
    exact collected_nil (by simp; decide)

theorem closeBlock (h : o.Placed S n done) (hline : S n (done ++ '}' :: rest)) :
    (o.closeBlock n).Placed S n (done ++ ['}']) := by
  have hended := h.endStatement hline (by decide) .closes
  have hdone : ∀ c ∈ (done ++ ['}']).getLast?, isIdentChar c = false := by
    simp only [List.getLast?_concat, Option.mem_some_iff, forall_eq']
    decide
  cases hstack : o.stack with
  | nil =>
    rw [Outline.closeBlock, hstack]
    exact ⟨h.statements, by simp, collected_nil hdone⟩
  | cons b outer =>
    rw [Outline.closeBlock, hstack]
    refine ⟨hended.statements, fun b' hb' => h.interrupted b' (by simp [hstack, hb']), ?_⟩
    show Collected S n _ (if _ then _ else _ : Array Located).toList
    split_ifs
    · -- The interrupted text is taken up again with an empty pair of braces.
      have hbraces := ((h.interrupted b (by simp [hstack])).push (c := '{') (by decide)).push
        (c := '}') (by decide)
      rw [List.append_assoc] at hbraces
      refine hbraces.collected (fun c hc => ?_) hdone
      obtain rfl : '}' = c := by simpa [chars] using hc
      decide
    · exact collected_nil hdone

theorem step (h : o.Placed S n done) (hline : S n (done ++ c :: rest)) :
    (o.step n c).Placed S n (done ++ [c]) := by
  have hdepth : ∀ d, Placed S n done { o with depth := d } := fun d =>
    ⟨h.statements, h.interrupted, h.pending⟩
  rw [Outline.step]
  split_ifs with _ _ hsemicolon hopen hclose
  · exact (hdepth _).push hline
  · exact (hdepth _).push hline
  · obtain rfl : c = ';' := by
      simp only [Bool.and_eq_true, decide_eq_true_eq] at hsemicolon
      exact hsemicolon.1
    exact h.endStatement hline (by decide) .semicolon
  · subst hopen
    exact h.openBlock hline
  · subst hclose
    exact h.closeBlock hline
  · exact h.push hline

theorem foldl_step (h : o.Placed S n done) (hline : S n (done ++ rest)) :
    (rest.foldl (fun o c => o.step n c) o).Placed S n (done ++ rest) := by
  induction rest generalizing o done with
  | nil => rwa [List.append_nil]
  | cons c rest ih =>
    have := ih (h.step hline) (by rwa [List.append_assoc])
    rwa [List.append_assoc] at this

/-- A new line starts with no word to go on with. -/
theorem ofSettled (hstatements : ∀ s ∈ o.statements.toList, Settled S n s.located)
    (hinterrupted : ∀ b ∈ o.stack, Settled S n b.interrupted)
    (hpending : Settled S n o.pending.toList)
    (hlast : ∀ c ∈ (chars o.pending.toList).getLast?, isIdentChar c = false) :
    o.Placed S (n + 1) [] where
  statements s hs := (hstatements s hs).mono (Nat.le_succ n)
  interrupted b hb := (hinterrupted b hb).mono (Nat.le_succ n)
  pending := (hpending.mono (Nat.le_succ n)).collected hlast (by simp)

theorem endLine (h : o.Placed S n done) (hline : S n done) :
    (o.endLine n).Placed S (n + 1) [] := by
  have hsettled : Settled S n o.pending.toList :=
    h.pending.settled (done.append_nil.symm ▸ hline) (by simp)
  have hblank : isIdentChar ' ' = false := by decide
  rw [Outline.endLine]
  split_ifs with hempty
  · refine ofSettled h.statements h.interrupted hsettled ?_
    rw [Array.isEmpty_iff.1 hempty]
    simp [chars]
  · refine ofSettled (o := o.push ' ' n) h.statements h.interrupted ?_ ?_
    · rw [Outline.push, Array.toList_push]
      exact hsettled.push hblank
    · rw [Outline.push, Array.toList_push]
      simp [chars, hblank]

theorem feedLine (h : o.Placed S n []) {code : List Char} (hline : S n code) :
    (o.feedLine n code).Placed S (n + 1) [] :=
  (h.foldl_step hline).endLine hline

theorem skipLine (h : o.Placed S n []) : o.Placed S (n + 1) [] := by
  obtain ⟨old, word, htext, hold, hlast, -, before, hdone, -⟩ := h.pending
  have hword : chars word = [] := (List.append_eq_nil_iff.1 hdone.symm).2
  rw [List.map_eq_nil_iff.1 hword, List.append_nil] at htext
  exact ofSettled h.statements h.interrupted (htext ▸ hold) (htext ▸ hlast)

theorem feedLines (h : o.Placed S n []) {ls : List (List Char × Bool)}
    (hls : ∀ i code, ls[i]? = some (code, false) → S (n + i) code) :
    (o.feedLines n ls).Placed S (n + ls.length) [] := by
  induction ls generalizing o n with
  | nil => exact h
  | cons l ls ih =>
    obtain ⟨code, isDirective⟩ := l
    have hrest : ∀ i code, ls[i]? = some (code, false) → S (n + 1 + i) code := by
      intro i code hi
      rw [Nat.add_assoc, Nat.add_comm 1 i]
      exact hls (i + 1) code hi
    rw [Outline.feedLines, List.length_cons, Nat.add_comm ls.length, ← Nat.add_assoc]
    cases isDirective with
    | false => exact ih (h.feedLine (hls 0 code rfl)) hrest
    | true => exact ih h.skipLine hrest

end Placed

end Outline

/-! ### Line maps -/

theorem lineMap_append (a b : List Located) : lineMap (a ++ b) = lineMap a ++ lineMap b :=
  List.flatMap_append

theorem lineMap_cons (l : Located) (text : List Located) :
    lineMap (l :: text) = List.replicate l.char.utf8Size l.line ++ lineMap text :=
  List.flatMap_cons

theorem length_lineMap (text : List Located) :
    (lineMap text).length = Text.byteLength (chars text) := by
  induction text with
  | nil => rfl
  | cons l text ih =>
    rw [lineMap_cons, List.length_append, List.length_replicate, ih]
    rfl

/-- The first byte of a character carries its line. -/
theorem getElem?_lineMap (a : List Located) (l : Located) (b : List Located) :
    (lineMap (a ++ l :: b))[Text.byteLength (chars a)]? = some l.line := by
  rw [← length_lineMap, lineMap_append, List.getElem?_append_right (Nat.le_refl _), Nat.sub_self,
    lineMap_cons, List.getElem?_append_left (by simpa using l.char.utf8Size_pos),
    List.getElem?_replicate, if_pos l.char.utf8Size_pos]

theorem pairwise_lineMap {text : List Located} (h : text.Pairwise (·.line ≤ ·.line)) :
    (lineMap text).Pairwise (· ≤ ·) := by
  refine List.pairwise_flatMap.2 ⟨fun l _ => ?_, h.imp fun {l l'} hle x hx y hy => ?_⟩
  · exact List.pairwise_replicate.2 (.inr (Nat.le_refl _))
  · rw [(List.mem_replicate.1 hx).2, (List.mem_replicate.1 hy).2]
    exact hle

end Guideline.Source

namespace Guideline.SourceFile

open Source

/-- Line `n` holds the masked code `code` and does not belong to a directive. -/
def IsCodeLine (f : SourceFile) (n : Nat) (code : List Char) : Prop :=
  1 ≤ n ∧ (f.code.zip f.directives)[n - 1]? = some (code, false)

/-- Every word of a statement is a whole word of a line of the file. -/
theorem settled_of_mem_statements {content : List Char} {s : Statement}
    (h : s ∈ (parse content).statements) :
    ∃ n, Settled (parse content).IsCodeLine n s.located := by
  have hlines : ∀ i code, ((parse content).code.zip (parse content).directives)[i]? =
      some (code, false) → (parse content).IsCodeLine (1 + i) code := by
    intro i code hi
    rw [Nat.add_comm]
    exact ⟨Nat.succ_pos i, hi⟩
  exact ⟨_, ((Outline.Placed.empty _ 1).feedLines hlines).statements s h⟩

theorem IsCodeLine.facts {content : List Char} {n : Nat} {code : List Char}
    (h : (parse content).IsCodeLine n code) :
    n ≤ (parse content).lineCount ∧ (parse content).isDirective n = false ∧
      (parse content).codeLine n = code := by
  obtain ⟨hpos, hzip⟩ := h
  obtain ⟨i, rfl⟩ := Nat.exists_eq_succ_of_ne_zero (Nat.ne_of_gt hpos)
  obtain ⟨hlt, -⟩ := List.getElem?_eq_some_iff.1 hzip
  obtain ⟨hcode, hdirective⟩ := List.getElem?_zip_eq_some.1 hzip
  refine ⟨Nat.le_trans hlt (length_zip_le content), ?_, ?_⟩
  · rw [isDirective, atLine]
    exact congrArg (·.getD false) hdirective
  · rw [codeLine, atLine]
    exact congrArg (·.getD []) hcode

end Guideline.SourceFile
