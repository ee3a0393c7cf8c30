import Guideline.Pattern.Basic
import Guideline.Proofs.Pattern.Span
import Guideline.Text.Utf8
import Mathlib.Algebra.GroupWithZero.Nat
import Mathlib.Data.List.TakeWhile

/-!
# Keywords match whole words

The pattern of a list of keywords is written out as a text and read again. Reading it gives back one
branch for each keyword, whatever characters the keyword has (`reads_branches`), so the pattern matches
just where a keyword stands between two word boundaries (`ofKeywords_isMatch_iff`). Nothing but the room
that the automaton takes can make reading fail.
-/

namespace Guideline.Pattern

/-! ### Occurrences of words -/

/-- Between the two texts there is a word boundary: a character of words on one side only. -/
def IsWordBoundary (before after : List Char) : Prop :=
  ¬ ((∃ c ∈ before.getLast?, Unicode.isWordChar c = true) ↔
    ∃ c ∈ after.head?, Unicode.isWordChar c = true)

/-- The word stands somewhere in the text, and both its ends are word boundaries. -/
def OccursAsWord (word text : List Char) : Prop :=
  ∃ before after, text = before ++ word ++ after ∧
    IsWordBoundary before (word ++ after) ∧ IsWordBoundary (before ++ word) after

theorem Look.inWord_iff {c : Option Char} :
    Look.inWord false c = true ↔ ∃ d ∈ c, Unicode.isWordChar d = true := by
  cases c <;> simp [Look.inWord]

theorem Look.holds_wordBoundary_iff {before after : List Char} :
    (Look.wordBoundary false).holds before.getLast? after.head? = true ↔
      IsWordBoundary before after := by
  rw [holds, IsWordBoundary, bne_iff_ne, Ne, Bool.eq_iff_iff, inWord_iff, inWord_iff]

/-! ### The parts of the pattern -/

/-- The part that a character makes. -/
def charNode (c : Char) : Node :=
  { regex := .set (.char c), size := (CharClass.char c).size }

/-- The branch that a keyword makes. -/
def wordNode (word : List Char) : Node :=
  catNode (word.map charNode).reverse

theorem CharClass.contains_char {c d : Char} : (CharClass.char c).contains d = true ↔ d = c := by
  simp only [char, contains, Unicode.Ranges.contains, List.any_cons, List.any_nil, Bool.or_false,
    Bool.and_eq_true, decide_eq_true_eq]
  rw [← Char.toNat_inj]
  omega

theorem CharClass.size_char (c : Char) : (CharClass.char c).size = stateSize * c.utf8Size := by
  have hmerge : (CharClass.char c).toRanges = [(c.toNat, c.toNat)] := by
    simp [char, toRanges, Unicode.Ranges.merge, Unicode.Ranges.joinLast]
  rw [char] at hmerge ⊢
  simp only [size, hmerge, if_true, Char.ofNat_toNat]

theorem catNode_append {parts : List Node} (hne : parts ≠ []) (p : Node) :
    (catNode (parts ++ [p])).regex = .cat p.regex (catNode parts).regex ∧
      (catNode (parts ++ [p])).size = (catNode parts).size + p.size := by
  obtain ⟨q, parts, rfl⟩ := List.exists_cons_of_ne_nil hne
  cases parts with
  | nil => exact ⟨rfl, rfl⟩
  | cons q' parts => simp [catNode, List.foldl_append]

theorem altNode_append {branches : List Node} (hne : branches ≠ []) (b : Node) :
    (altNode (branches ++ [b])).regex = .alt b.regex (altNode branches).regex := by
  obtain ⟨q, branches, rfl⟩ := List.exists_cons_of_ne_nil hne
  cases branches with
  | nil => rfl
  | cons q' branches => simp [altNode, List.foldl_append]

theorem foldl_max_le {m : Nat} {l : List Nat} {start : Nat} (hstart : start ≤ m) (hl : ∀ n ∈ l, n ≤ m) :
    l.foldl max start ≤ m := by
  induction l generalizing start with
  | nil => exact hstart
  | cons n l ih =>
    exact ih (Nat.max_le.2 ⟨hstart, hl n (by simp)⟩) fun n' hn' => hl n' (by simp [hn'])

theorem depth_catNode_le {parts : List Node} {m : Nat} (h : ∀ p ∈ parts, p.depth ≤ m) :
    (catNode parts).depth ≤ m + 1 := by
  match parts with
  | [] => simp [catNode]
  | [p] => exact Nat.le_succ_of_le (h p (by simp))
  | p :: p' :: parts =>
    have hmax := foldl_max_le (l := (p' :: parts).map (·.depth)) (h p (by simp)) (by simp_all)
    simp only [catNode]
    omega

theorem depth_altNode_le {branches : List Node} {m : Nat} (h : ∀ b ∈ branches, b.depth ≤ m) :
    (altNode branches).depth ≤ m + 1 := by
  match branches with
  | [] => simp [altNode]
  | [b] => exact Nat.le_succ_of_le (h b (by simp))
  | b :: b' :: branches =>
    have hmax := foldl_max_le (l := (b' :: branches).map (·.depth)) (h b (by simp)) (by simp_all)
    simp only [altNode]
    omega

theorem depth_wordNode_le (word : List Char) : (wordNode word).depth ≤ 1 :=
  depth_catNode_le fun p hp => by
    obtain ⟨c, -, rfl⟩ := List.mem_map.1 (List.mem_reverse.1 hp)
    exact Nat.le_refl _

theorem size_wordNode {word : List Char} (hne : word ≠ []) :
    (wordNode word).size = stateSize * Text.byteLength word := by
  unfold wordNode
  induction word with
  | nil => exact absurd rfl hne
  | cons c word ih =>
    cases word with
    | nil => simp [catNode, charNode, CharClass.size_char, Text.byteLength]
    | cons d word =>
      have hc : (charNode c).size = stateSize * c.utf8Size := CharClass.size_char c
      rw [List.map_cons, List.reverse_cons, (catNode_append (by simp) _).2, ih (by simp), hc,
        Text.byteLength.eq_def (c :: d :: word), Nat.mul_add, Nat.add_comm]

theorem foldl_add_eq (l : List Nat) (start : Nat) : l.foldl (· + ·) start = start + l.sum := by
  induction l generalizing start with
  | nil => rfl
  | cons n l ih => rw [List.foldl_cons, ih, List.sum_cons, Nat.add_assoc]

theorem size_altNode {branches : List Node} (hne : branches ≠ []) :
    (altNode branches).size =
      (branches.map (·.size)).sum + if branches.length = 1 then 0 else 2 * stateSize := by
  match branches with
  | [] => exact absurd rfl hne
  | [b] => simp [altNode]
  | b :: b' :: branches =>
    simp only [altNode, foldl_add_eq, List.map_cons, List.sum_cons, List.length_cons]
    rw [if_neg (by omega)]
    omega

/-! ### Reading the pattern back -/

namespace PatternState

/-- Reading goes on from `s` to `s'`, in no more steps than it takes characters. -/
def Reads (s s' : PatternState) : Prop :=
  ∃ n, n + s'.rest.length ≤ s.rest.length ∧ ∀ fuel, read (fuel + n) s = read fuel s'

theorem Reads.refl (s : PatternState) : Reads s s :=
  ⟨0, by omega, fun _ => rfl⟩

theorem Reads.trans {s s' s'' : PatternState} (h : Reads s s') (h' : Reads s' s'') : Reads s s'' := by
  obtain ⟨n, hn, hread⟩ := h
  obtain ⟨n', hn', hread'⟩ := h'
  refine ⟨n' + n, by omega, fun fuel => ?_⟩
  rw [← Nat.add_assoc, hread, hread']

theorem reads_of_step {s s' : PatternState} {c : Char} {rest : List Char} (hrest : s.rest = c :: rest)
    (hblank : s.flags.ignoreBlank = false) (hstep : s.step c rest = some s')
    (hle : s'.rest.length ≤ rest.length) : Reads s s' := by
  refine ⟨1, by simp only [hrest, List.length_cons]; omega, fun fuel => ?_⟩
  rw [read, hblank, skip, if_neg (by simp), hrest]
  show (s.step c rest).bind (read fuel) = _
  rw [hstep, Option.bind_some]

/-- A pattern is at its end once reading has come so far. -/
theorem parse?_of_reads {source : List Char} {s : PatternState} (h : Reads { rest := source } s)
    (hrest : s.rest = []) (hblank : s.flags.ignoreBlank = false) : parse? source = s.finish := by
  obtain ⟨n, hn, hread⟩ := h
  have hfuel : source.length + 1 = (source.length - n + 1) + n := by
    have : n ≤ source.length := by simpa [hrest] using hn
    omega
  rw [parse?, hfuel, hread, read, hblank, skip, if_neg (by simp), hrest]

theorem readEscape_of_mem {c : Char} (hc : c ∈ metaChars) (rest : List Char) :
    readEscape false (c :: rest) = some (.literal { char := c }, rest) := by
  have hall : metaChars =
      ['\\', '.', '+', '*', '?', '(', ')', '|', '[', ']', '\x7b', '\x7d', '^', '$', '#', '&', '-', '~'] := by
    decide
  rw [hall] at hc
  simp only [List.mem_cons, List.not_mem_nil, or_false] at hc
  rcases hc with rfl | rfl | rfl | rfl | rfl | rfl | rfl | rfl | rfl | rfl | rfl | rfl | rfl | rfl | rfl |
    rfl | rfl | rfl <;> rfl

variable {parts : List Node} {stack : List Frame}

theorem step_literal {c : Char} (hc : c ∉ metaChars) (old rest : List Char) :
    step { rest := old, parts, stack } c rest = some { rest, parts := charNode c :: parts, stack } := by
  have hne : ∀ d ∈ metaChars, c ≠ d := fun d hd h => hc (h ▸ hd)
  unfold step
  split
  -- a character with a meaning of its own is none of the others
  all_goals first
    | exact absurd rfl (hne _ (by decide))
    | rfl

/-- However a character is written, it is read as itself. -/
theorem reads_escaped (c : Char) (rest : List Char) :
    Reads { rest := escape [c] ++ rest, parts, stack } { rest, parts := charNode c :: parts, stack } := by
  by_cases hc : c ∈ metaChars
  · have hesc : escape [c] ++ rest = '\\' :: c :: rest := by simp [escape, hc]
    refine reads_of_step hesc rfl ?_ (by simp)
    show (readEscape false (c :: rest)).bind _ = _
    rw [readEscape_of_mem hc]
    rfl
  · have hesc : escape [c] ++ rest = c :: rest := by simp [escape, hc]
    exact reads_of_step hesc rfl (step_literal hc _ rest) (by simp)

theorem reads_escape (word rest : List Char) :
    Reads { rest := escape word ++ rest, parts, stack }
      { rest, parts := (word.map charNode).reverse ++ parts, stack } := by
  induction word generalizing parts with
  | nil => exact Reads.refl _
  | cons c word ih =>
    have hesc : escape (c :: word) ++ rest = escape [c] ++ (escape word ++ rest) := by simp [escape]
    have hparts : ((c :: word).map charNode).reverse ++ parts =
        (word.map charNode).reverse ++ charNode c :: parts := by simp
    rw [hesc, hparts]
    exact (reads_escaped c _).trans ih

/-- The branches read so far wait on the stack, if there are any. -/
def waiting (branches : List Node) (stack : List Frame) : List Frame :=
  if branches.isEmpty then stack else .alternation branches :: stack

theorem finishBranches_waiting (branches parts : List Node) {before : List Node} {flags : Flags}
    {isNumbered : Bool} :
    finishBranches parts (waiting branches (.group before flags isNumbered :: stack)) =
      (altNode (catNode parts :: branches), .group before flags isNumbered :: stack) := by
  cases branches <;> rfl

/-- The words of an alternation up to the end of its group are read as its branches. -/
theorem reads_branches {words : List (List Char)} (hne : words ≠ []) (branches before : List Node)
    (rest : List Char) :
    Reads
      { rest := ['|'].intercalate (words.map escape) ++ ')' :: rest
        stack := waiting branches (.group before {} false :: stack) }
      { rest
        parts :=
          { regex := (altNode ((words.map wordNode).reverse ++ branches)).regex
            depth := (altNode ((words.map wordNode).reverse ++ branches)).depth + 1
            size := (altNode ((words.map wordNode).reverse ++ branches)).size } :: before
        stack } := by
  induction words generalizing branches with
  | nil => exact absurd rfl hne
  | cons word words ih =>
    cases words with
    | nil =>
      have hrest : ['|'].intercalate ([word].map escape) ++ ')' :: rest = escape word ++ ')' :: rest := by
        simp
      rw [hrest]
      refine (reads_escape word _).trans (reads_of_step rfl rfl ?_ (Nat.le_refl _))
      show closeGroup _ rest = _
      rw [closeGroup, finishBranches_waiting, List.append_nil]
      rfl
    | cons word' words =>
      have hrest : ['|'].intercalate ((word :: word' :: words).map escape) ++ ')' :: rest =
          escape word ++ '|' :: (['|'].intercalate ((word' :: words).map escape) ++ ')' :: rest) := by
        simp [List.intercalate_cons_cons]
      have hnext := ih (by simp) (wordNode word :: branches)
      have hnodes : ((word :: word' :: words).map wordNode).reverse ++ branches =
          ((word' :: words).map wordNode).reverse ++ wordNode word :: branches := by simp
      rw [hrest, hnodes]
      refine (reads_escape word _).trans (Reads.trans (reads_of_step rfl rfl ?_ (Nat.le_refl _)) hnext)
      show some (nextBranch _ _) = _
      cases branches <;> simp [nextBranch, waiting, wordNode]

end PatternState

/-! ### The whole pattern -/

/-- The part that the mark of a word boundary makes. -/
def boundaryNode : Node :=
  { regex := .look (.wordBoundary false) }

/-- The expression of an alternative of words between word boundaries. -/
def wordsRegex (words : List (List Char)) : Regex :=
  .cat boundaryNode.regex (.cat (altNode (words.map wordNode).reverse).regex boundaryNode.regex)

/-- The room of the automaton of such an alternative: a state for each byte of the words and for each
boundary, and two more for the choice if there is one. -/
def wordsRoom (words : List (List Char)) : Nat :=
  (words.map fun w => stateSize * Text.byteLength w).sum + 2 * stateSize +
    if words.length = 1 then 0 else 2 * stateSize

theorem size_altNode_words {words : List (List Char)} (hne : words ≠ []) (hwords : ∀ w ∈ words, w ≠ []) :
    (altNode (words.map wordNode).reverse).size + 2 * stateSize = wordsRoom words := by
  have hsizes : (words.map wordNode).map (·.size) = words.map fun w => stateSize * Text.byteLength w := by
    rw [List.map_map]
    exact List.map_congr_left fun w hw => size_wordNode (hwords w hw)
  rw [size_altNode (by simpa using hne), List.map_reverse, List.sum_reverse, hsizes,
    List.length_reverse, List.length_map, wordsRoom, Nat.add_right_comm]

theorem depth_altNode_words (words : List (List Char)) :
    (altNode (words.map wordNode).reverse).depth ≤ 2 := by
  refine depth_altNode_le fun b hb => ?_
  obtain ⟨w, -, rfl⟩ := List.mem_map.1 (List.mem_reverse.1 hb)
  exact depth_wordNode_le w

namespace PatternState

theorem reads_opening (rest : List Char) :
    Reads { rest := '\\' :: 'b' :: '(' :: '?' :: ':' :: rest }
      { rest, stack := [.group [boundaryNode] {} false] } := by
  have hboundary : Reads { rest := '\\' :: 'b' :: '(' :: '?' :: ':' :: rest }
      { rest := '(' :: '?' :: ':' :: rest, parts := [boundaryNode] } :=
    reads_of_step rfl rfl rfl (by simp)
  exact hboundary.trans (reads_of_step rfl rfl rfl (by simp only [List.length_cons]; omega))

theorem reads_closing (parts : List Node) :
    Reads { rest := ['\\', 'b'], parts } { rest := [], parts := boundaryNode :: parts } :=
  reads_of_step rfl rfl rfl (by simp)

theorem finish_between {node : Node} (hdepth : node.depth ≤ 3) :
    finish { rest := [], parts := [boundaryNode, node, boundaryNode] } =
      if node.size + 2 * stateSize ≤ maxSize then
        some (.cat boundaryNode.regex (.cat node.regex boundaryNode.regex))
      else none := by
  have hdeep : (catNode [boundaryNode, node, boundaryNode]).depth ≤ 4 :=
    depth_catNode_le fun p hp => by
      simp only [List.mem_cons, List.not_mem_nil, or_false] at hp
      rcases hp with rfl | rfl | rfl
      · exact Nat.zero_le 3
      · exact hdepth
      · exact Nat.zero_le 3
  have hsize : (catNode [boundaryNode, node, boundaryNode]).size = node.size + 2 * stateSize := by
    show stateSize + node.size + stateSize = _
    omega
  have hshallow : (catNode [boundaryNode, node, boundaryNode]).depth ≤ maxDepth :=
    Nat.le_trans hdeep (by decide)
  simp only [finish, finishBranches, hsize, hshallow, decide_true, Bool.true_and, decide_eq_true_eq]
  rfl

end PatternState

theorem parse?_words {words : List (List Char)} (hne : words ≠ []) (hwords : ∀ w ∈ words, w ≠ []) :
    parse? ('\\' :: 'b' :: '(' :: '?' :: ':' :: (['|'].intercalate (words.map escape) ++ [')', '\\', 'b'])) =
      if wordsRoom words ≤ maxSize then some (wordsRegex words) else none := by
  have hbranches := @PatternState.reads_branches [] words hne [] [boundaryNode] ['\\', 'b']
  rw [List.append_nil] at hbranches
  have hreads := (PatternState.reads_opening _).trans (hbranches.trans (PatternState.reads_closing _))
  have hdepth := depth_altNode_words words
  rw [PatternState.parse?_of_reads hreads rfl rfl, PatternState.finish_between (Nat.succ_le_succ hdepth),
    size_altNode_words hne hwords]
  rfl

/-! ### What the pattern matches -/

section Spans

variable {text : List Char}

open Regex

theorem cons_isPrefix_drop_iff {c : Char} {word : List Char} {i : Nat} :
    c :: word <+: text.drop i ↔ text[i]? = some c ∧ word <+: text.drop (i + 1) := by
  rw [← List.head?_drop, ← List.tail_drop]
  cases text.drop i with
  | nil => simp
  | cons d rest => simp [List.cons_prefix_cons, eq_comm]

theorem spans_charNode (c : Char) : Spans text (charNode c).regex fun i j =>
    j = i + 1 ∧ text[i]? = some c :=
  (Spans.set (.char c)).congr fun i j => by simp only [CharClass.contains_char, exists_eq_right]

theorem spans_wordNode {word : List Char} (hne : word ≠ []) :
    Spans text (wordNode word).regex fun i j => word <+: text.drop i ∧ j = i + word.length := by
  unfold wordNode
  induction word with
  | nil => exact absurd rfl hne
  | cons c word ih =>
    cases word with
    | nil =>
      refine (spans_charNode c).congr fun i j => ?_
      simp [cons_isPrefix_drop_iff, and_comm]
    | cons d word =>
      rw [List.map_cons, List.reverse_cons, (catNode_append (by simp) _).1]
      refine ((spans_charNode c).cat (ih (by simp))).congr fun i j => ?_
      rw [cons_isPrefix_drop_iff]
      constructor
      · rintro ⟨_, ⟨rfl, hc⟩, hword, rfl⟩
        exact ⟨⟨hc, hword⟩, by simp only [List.length_cons]; omega⟩
      · rintro ⟨⟨hc, hword⟩, rfl⟩
        exact ⟨i + 1, ⟨rfl, hc⟩, hword, by simp only [List.length_cons]; omega⟩

theorem spans_altNode {words : List (List Char)} (hne : words ≠ []) (hwords : ∀ w ∈ words, w ≠ []) :
    Spans text (altNode (words.map wordNode).reverse).regex fun i j =>
      ∃ w ∈ words, w <+: text.drop i ∧ j = i + w.length := by
  induction words with
  | nil => exact absurd rfl hne
  | cons word words ih =>
    have hword : Spans text (wordNode word).regex _ := spans_wordNode (hwords word (by simp))
    cases words with
    | nil => exact hword.congr fun i j => by simp
    | cons word' words =>
      rw [List.map_cons, List.reverse_cons, altNode_append (by simp)]
      refine (hword.alt (ih (by simp) fun w hw => hwords w (by simp [hw]))).congr fun i j => ?_
      rw [List.exists_mem_cons_iff (fun w => w <+: text.drop i ∧ j = i + w.length) word]

theorem isMatch_wordsRegex_iff {words : List (List Char)} (hne : words ≠ []) (hwords : ∀ w ∈ words, w ≠ []) :
    (wordsRegex words).isMatch text = true ↔ ∃ w ∈ words, OccursAsWord w text := by
  have hboundary : Spans text boundaryNode.regex fun i j =>
      i = j ∧ IsWordBoundary (text.take i) (text.drop i) :=
    (Spans.look (.wordBoundary false)).congr fun i j => by rw [Look.holds_wordBoundary_iff]
  rw [wordsRegex, (hboundary.cat ((spans_altNode hne hwords).cat hboundary)).isMatch_iff]
  constructor
  · rintro ⟨i, -, hi, _, ⟨rfl, hstart⟩, _, ⟨w, hw, ⟨after, hafter⟩, rfl⟩, rfl, hstop⟩
    have htake : text.take (i + w.length) = text.take i ++ w := by
      rw [List.take_add, ← hafter, List.take_left]
    have hdrop : text.drop (i + w.length) = after := by
      rw [← List.drop_drop, ← hafter, List.drop_left]
    refine ⟨w, hw, text.take i, after, ?_, hafter ▸ hstart, ?_⟩
    · rw [List.append_assoc, hafter, List.take_append_drop]
    · rw [← htake, ← hdrop]
      exact hstop
  · rintro ⟨w, hw, before, after, rfl, hstart, hstop⟩
    have htake : (before ++ w ++ after).take (before.length + w.length) = before ++ w := by
      rw [← List.length_append, List.take_left]
    have hdrop : (before ++ w ++ after).drop (before.length + w.length) = after := by
      rw [← List.length_append, List.drop_left]
    refine ⟨before.length, before.length + w.length, by simp, before.length, ⟨rfl, ?_⟩,
      before.length + w.length, ⟨w, hw, ?_, rfl⟩, rfl, ?_⟩
    · rw [List.append_assoc, List.take_left, List.drop_left]
      exact hstart
    · rw [List.append_assoc, List.drop_left]
      exact List.prefix_append w after
    · rw [htake, hdrop]
      exact hstop

end Spans

/-! ### Keywords -/

theorem trim_ne_nil {cs : List Char} (h : Text.allBlank cs = false) : Text.trim cs ≠ [] := by
  obtain ⟨c, hc, hblank⟩ := List.all_eq_false.1 h
  have hstart : Text.trimStart cs ≠ [] := fun hnil => hblank (List.dropWhile_eq_nil_iff.1 hnil c hc)
  intro hnil
  have hall := List.dropWhile_eq_nil_iff.1 (List.reverse_eq_nil_iff.1 hnil)
  have hhead := List.head_dropWhile_not Text.isBlank hstart
  exact Bool.false_ne_true (hhead.symm.trans (hall _ (List.mem_reverse.2 (List.head_mem hstart))))

/-- A keyword without the blanks around it. -/
def keyword (k : String) : List Char :=
  Text.trim k.toList

/-- The text that the pattern of a list of keywords is written as. -/
def keywordsSource (keywords : List String) : String :=
  "\\b(?:" ++ "|".intercalate (keywords.map fun k => String.ofList (escape (keyword k))) ++ ")\\b"

theorem toList_keywordsSource (keywords : List String) :
    (keywordsSource keywords).toList = '\\' :: 'b' :: '(' :: '?' :: ':' ::
      (['|'].intercalate ((keywords.map keyword).map escape) ++ [')', '\\', 'b']) := by
  have hmap : (keywords.map fun k => String.ofList (escape (keyword k))).map String.toList =
      (keywords.map keyword).map escape := by
    simp [List.map_map, Function.comp_def]
  rw [keywordsSource, String.toList_append, String.toList_append, String.toList_intercalate, hmap]
  rfl

theorem keyword_ne_nil {keywords : List String}
    (hblank : ∀ k ∈ keywords, Text.allBlank k.toList = false) : ∀ w ∈ keywords.map keyword, w ≠ [] := by
  intro w hw
  obtain ⟨k, hk, rfl⟩ := List.mem_map.1 hw
  exact trim_ne_nil (hblank k hk)

theorem ofKeywords_eq {keywords : List String} (hne : keywords ≠ [])
    (hblank : ∀ k ∈ keywords, Text.allBlank k.toList = false) :
    ofKeywords keywords =
      if wordsRoom (keywords.map keyword) ≤ maxSize then
        .ok ⟨keywordsSource keywords, wordsRegex (keywords.map keyword)⟩
      else .error (.invalid (keywordsSource keywords)) := by
  have hany : (keywords.any fun k => Text.allBlank k.toList) = false := by simpa using hblank
  have hsource : (keywordsSource keywords).isEmpty = false := by
    rw [← Bool.not_eq_true, String.isEmpty_iff, ← String.toList_inj, toList_keywordsSource]
    simp
  have hparse := parse?_words (by simpa using hne) (keyword_ne_nil hblank)
  rw [← toList_keywordsSource] at hparse
  rw [ofKeywords, List.isEmpty_eq_false_iff.2 hne, hany]
  show ofSource (keywordsSource keywords) = _
  rw [ofSource, hsource, hparse]
  by_cases hroom : wordsRoom (keywords.map keyword) ≤ maxSize
  · simp [hroom]
  · simp [hroom]

/-- Keywords that are not blank make a pattern unless its automaton takes too much room, and the pattern
matches the texts in which one of the keywords stands as a whole word. -/
theorem ofKeywords_isMatch_iff {keywords : List String} (hne : keywords ≠ [])
    (hblank : ∀ k ∈ keywords, Text.allBlank k.toList = false) :
    ∃ p : Pattern,
      (ofKeywords keywords =
        if wordsRoom (keywords.map fun k => Text.trim k.toList) ≤ maxSize then .ok p
        else .error (.invalid p.source)) ∧
      ∀ text, p.isMatch text = true ↔ ∃ k ∈ keywords, OccursAsWord (Text.trim k.toList) text := by
  refine ⟨⟨keywordsSource keywords, wordsRegex (keywords.map keyword)⟩, ofKeywords_eq hne hblank,
    fun text => ?_⟩
  show (wordsRegex (keywords.map keyword)).isMatch text = true ↔ _
  rw [isMatch_wordsRegex_iff (by simpa using hne) (keyword_ne_nil hblank)]
  simp only [List.mem_map, exists_exists_and_eq_and, keyword]

/-- The first keyword starts the second one and stands in the text too, but not as a word. -/
theorem ofKeywords_operatorPlus :
    ∃ p, ofKeywords ["op", " operator+ "] = .ok p ∧ p.isMatch "(operator+x)".toList = true := by
  obtain ⟨p, hp, hmatch⟩ :=
    @ofKeywords_isMatch_iff ["op", " operator+ "] (by decide) (by decide)
  rw [if_pos (by decide)] at hp
  refine ⟨p, hp, (hmatch _).2 ⟨" operator+ ", by decide, ['('], ['x', ')'], by decide, ?_, ?_⟩⟩
  · exact Look.holds_wordBoundary_iff.1 (by decide)
  · exact Look.holds_wordBoundary_iff.1 (by decide)

end Guideline.Pattern
