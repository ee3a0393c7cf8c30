import Guideline.Proofs.Declaration.Named
import Guideline.Proofs.Source.Provenance

/-!
# Declared names stand where they are reported

A name is reported with a line, which is looked up by the byte offset of its token in the statement.
The token is a whole word of the statement (`isWordOf_of_mem_tokenizeFrom`), so it is a whole word of a
line of code, the one that its first byte carries (`wordAt_of_isWordOf`), and of the line as written.
-/

namespace Guideline.SourceFile

open Source Declaration Check

/-- The bytes at the offset of a word spell it. -/
theorem take_drop_encode_of_isWordOf {text w : List Char} {offset : Nat}
    (h : IsWordOf 0 text offset w) :
    ((Text.encode text).drop offset).take (Text.encode w).length = Text.encode w := by
  obtain ⟨a, b, rfl, rfl, -⟩ := h
  rw [Nat.zero_add, Text.encode_append, Text.encode_append, ← Text.length_encode, List.append_assoc,
    List.drop_left, List.take_left]

theorem exists_located_of_isWordOf {text : List Located} {offset : Nat} {w : List Char}
    (h : IsWordOf 0 (chars text) offset w) : ∃ word ∈ wordsOf text, chars word = w ∧
      ∀ l ∈ word.head?, (lineMap text)[offset]? = some l.line := by
  obtain ⟨a, b, htext, rfl, hne, hw, hd⟩ := h
  obtain ⟨text', lb, rfl, htext', rfl⟩ := List.map_eq_append_iff.1 htext
  obtain ⟨la, word, rfl, rfl, rfl⟩ := List.map_eq_append_iff.1 htext'
  have hword : wordsOf word = [word] :=
    wordsOf_word (fun hnil => hne (by simp [hnil])) fun l hl => hw l.char (List.mem_map_of_mem hl)
  refine ⟨word, ?_, rfl, fun l hl => ?_⟩
  · rw [wordsOf_append_of_head hd.2, wordsOf_append_separated hd.1, hword]
    simp
  · obtain ⟨word, rfl⟩ := List.head?_eq_some_iff.1 hl
    have := getElem?_lineMap la l (word ++ lb)
    rw [Nat.zero_add, List.append_assoc]
    exact this

/-- The line that is looked up for a word of a statement is a line of code that holds the word. -/
theorem wordAt_of_isWordOf {content : List Char} {s : Statement}
    (hs : s ∈ (parse content).statements) {offset : Nat} {w : List Char}
    (h : IsWordOf 0 s.text offset w) :
    1 ≤ s.lineAt offset ∧ s.lineAt offset ≤ (parse content).lineCount ∧
      (parse content).isDirective (s.lineAt offset) = false ∧
      ∃ column, WordAt ((parse content).codeLine (s.lineAt offset)) column w := by
  obtain ⟨bound, hsettled⟩ := settled_of_mem_statements hs
  obtain ⟨word, hmem, rfl, hline⟩ := exists_located_of_isWordOf h
  obtain ⟨n, code, column, hcode, hlines, hword⟩ := hsettled.stands word hmem
  have hn : s.lineAt offset = n := by
    obtain ⟨-, -, -, -, hne, -⟩ := h
    cases word with
    | nil => exact absurd rfl hne
    | cons l word =>
      rw [Statement.lineAt, hline l rfl, Option.some_or, Option.getD_some]
      exact hlines l (by simp)
  obtain ⟨hle, hdirective, rfl⟩ := hcode.facts
  rw [hn]
  exact ⟨hcode.1, hle, hdirective, column, hword⟩

/-- Every name that a statement declares is what the statement spells at its offset, and is a whole word
of the line reported for it, which is a line of code, masked and as written. Every byte of a statement
has a line, in order. -/
theorem declaredNames_wordAt (content : List Char) (s : Statement)
    (hs : s ∈ (parse content).statements) :
    (∀ construct, ∀ name ∈ declaredNames s construct,
      name.name ≠ "" ∧
      ((Text.encode s.text).drop name.offset).take (Text.encode name.name.toList).length =
        Text.encode name.name.toList ∧
      1 ≤ s.lineAt name.offset ∧ s.lineAt name.offset ≤ (parse content).lineCount ∧
      (parse content).isDirective (s.lineAt name.offset) = false ∧
      ∃ column, WordAt ((parse content).codeLine (s.lineAt name.offset)) column name.name.toList ∧
        WordAt ((parse content).rawLine (s.lineAt name.offset)) column name.name.toList) ∧
    (lineMap s.located).length = (Text.encode s.text).length ∧
    (lineMap s.located).Pairwise (· ≤ ·) := by
  obtain ⟨bound, hsettled⟩ := settled_of_mem_statements hs
  refine ⟨fun construct name hname => ?_, ?_, pairwise_lineMap hsettled.ordered⟩
  · obtain ⟨t, ht, hident, rfl⟩ := named_of_mem_declaredNames hname
    have hword : IsWordOf 0 s.text t.located.offset t.located.name.toList :=
      isWordOf_of_mem_tokenizeFrom ht hident
    obtain ⟨hpos, hle, hdirective, column, hcode⟩ := wordAt_of_isWordOf hs hword
    obtain ⟨-, -, -, -, hne, hchars, -⟩ := id hword
    refine ⟨fun hnil => hne (by rw [hnil]; rfl), take_drop_encode_of_isWordOf hword, hpos, hle, hdirective,
      column, hcode, ?_⟩
    rw [codeLine_parse] at hcode
    exact wordAt_of_maskLine hcode hne hchars
  · rw [length_lineMap, Text.length_encode]
    rfl

/-- A directive and the head of a class on two lines. -/
def classContent : List Char :=
  "#if N\nclass\nBox \x7b\n".toList

def classHead : Statement :=
  { located := [⟨'c', 2⟩, ⟨'l', 2⟩, ⟨'a', 2⟩, ⟨'s', 2⟩, ⟨'s', 2⟩, ⟨' ', 2⟩, ⟨'B', 3⟩, ⟨'o', 3⟩, ⟨'x', 3⟩]
    ending := .opens .classBody
    scope := .file
    className := none }

theorem declaredNames_wordAt_classContent : classHead ∈ (parse classContent).statements ∧
    declaredNames classHead .classType = [⟨"Box", 6⟩] ∧ classHead.lineAt 6 = 3 ∧
    (parse classContent).isDirective 3 = false ∧
    ∃ column, WordAt ((parse classContent).codeLine 3) column "Box".toList ∧
      WordAt ((parse classContent).rawLine 3) column "Box".toList := by
  have hstatements : (parse classContent).statements = [classHead] := by decide +kernel
  have hmem : classHead ∈ (parse classContent).statements := by simp [hstatements]
  have hnames : declaredNames classHead .classType = [⟨"Box", 6⟩] := by decide +kernel
  obtain ⟨-, -, -, -, hdirective, hword⟩ :=
    (declaredNames_wordAt classContent classHead hmem).1 .classType ⟨"Box", 6⟩ (by simp [hnames])
  exact ⟨hmem, hnames, rfl, hdirective, hword⟩

end Guideline.SourceFile
