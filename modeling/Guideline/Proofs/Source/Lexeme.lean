import Guideline.Proofs.Source.MaskText

/-!
# Lexemes

The lexical elements of a source text: runs of code, ordinary and raw literals, comments. Each has
its text and its masked text, in which only code, the markers of raw strings and the quotes of
literals are left; `WellFormed` says what each may hold.
-/

namespace Guideline.Source

/-- The text with every character blanked out but those of its line endings. -/
def blankOut : List Char → List Char
  | [] => []
  | '\n' :: t => '\n' :: blankOut t
  | '\r' :: '\n' :: t => '\r' :: '\n' :: blankOut t
  | _ :: t => ' ' :: blankOut t

/-- What stands between the quotes of an ordinary literal: a backslash escapes the next character,
and before a line ending it continues the literal on the next line. -/
inductive LiteralBody (quote : Char) : List Char → Prop
  | nil : LiteralBody quote []
  | plain {c : Char} {t : List Char} : c ≠ quote → c ≠ '\\' → c ≠ '\n' → LiteralBody quote t →
      LiteralBody quote (c :: t)
  | escape {c : Char} {t : List Char} : c ≠ '\n' → LiteralBody quote t →
      LiteralBody quote ('\\' :: c :: t)
  | splice {t : List Char} : LiteralBody quote t → LiteralBody quote ('\\' :: '\n' :: t)
  | spliceReturn {t : List Char} : LiteralBody quote t →
      LiteralBody quote ('\\' :: '\r' :: '\n' :: t)

/-- What follows the slashes of a line comment, up to the line feed that ends it: the comment runs on
while its line ends in a backslash. -/
inductive LineCommentBody : List Char → Prop
  | last {l : List Char} : '\n' ∉ l → Text.endsWithChar '\\' (Text.chomp l) = false →
      LineCommentBody l
  | runOn {l t : List Char} : '\n' ∉ l → Text.endsWithChar '\\' (Text.chomp l) = true →
      LineCommentBody t → LineCommentBody (l ++ '\n' :: t)

/-- The text ends within a number, which starts with a digit that no identifier character is before. -/
def EndsInNumber (l : List Char) : Prop :=
  ∃ l' d m, l = l' ++ d :: m ∧ d.isDigit = true ∧ (∀ c ∈ l'.getLast?, isIdentChar c = false) ∧
    ∀ c ∈ m, isIdentChar c = true ∨ c = '.' ∨ c = '\''

/-- Code without comments and literals, which does not end in the middle of a word or number. -/
structure IsCodeRun (run : List Char) : Prop where
  no_quote : '"' ∉ run
  no_slash : '/' ∉ run
  /-- Every apostrophe separates digits of a number. -/
  separator : ∀ l r, run = l ++ '\'' :: r →
    EndsInNumber l ∧ ∃ c ∈ r.head?, isAsciiAlphanumeric c = true
  last : ∀ c ∈ run.getLast?, isIdentChar c = false ∧ c ≠ '.'

/-- What the characters of a raw string's delimiter are. -/
def IsDelimiter (d : List Char) : Prop :=
  ∀ c ∈ d, c ≠ '(' ∧ c ≠ ')' ∧ c ≠ '\\' ∧ Text.isBlank c = false

/-- A lexical element of a source text. -/
inductive Lexeme where
  | code (run : List Char)
  | string (body : List Char)
  | character (body : List Char)
  | raw (marker : String) (delimiter body : List Char)
  | blockComment (body : List Char)
  | lineComment (body : List Char)

namespace Lexeme

def text : Lexeme → List Char
  | code run => run
  | string body => '"' :: (body ++ ['"'])
  | character body => '\'' :: (body ++ ['\''])
  | raw marker d body => marker.toList ++ '"' :: (d ++ '(' :: (body ++ ')' :: (d ++ ['"'])))
  | blockComment body => '/' :: '*' :: (body ++ ['*', '/'])
  | lineComment body => '/' :: '/' :: (body ++ ['\n'])

/-- The text that is left of a lexeme when its comments and contents are blanked out. -/
def masked : Lexeme → List Char
  | code run => run
  | string body => '"' :: (blankOut body ++ ['"'])
  | character body => '\'' :: (blankOut body ++ ['\''])
  | raw marker d body => marker.toList ++ '"' :: (blankOut (d ++ '(' :: (body ++ ')' :: d)) ++ ['"'])
  | blockComment body => blankOut ('/' :: '*' :: (body ++ ['*', '/']))
  | lineComment body => blankOut ('/' :: '/' :: (body ++ ['\n']))

def WellFormed : Lexeme → Prop
  | code run => IsCodeRun run
  | string body => LiteralBody '"' body
  | character body => LiteralBody '\'' body
  | raw marker d body =>
    marker ∈ ["R", "u8R", "uR", "UR", "LR"] ∧ d.length ≤ 16 ∧ IsDelimiter d ∧
      ¬ ')' :: (d ++ ['"']) <:+: body
  | blockComment body => ¬ ['*', '/'] <:+: body
  | lineComment body => LineCommentBody body

end Lexeme

/-! ### Blanking out -/

section

variable {c : Char} {t u w : List Char}

theorem blankOut_cons (h : ¬ AtLineEnd c t) : blankOut (c :: t) = ' ' :: blankOut t := by
  rw [blankOut.eq_def]
  split <;> simp_all [AtLineEnd]

theorem atLineEnd_append (hu : u.head? ≠ some '\n') : AtLineEnd c (w ++ u) ↔ AtLineEnd c w := by
  cases w with
  | nil => simp [AtLineEnd, hu]
  | cons d w => simp [AtLineEnd]

theorem blankOut_append (hu : u.head? ≠ some '\n') :
    blankOut (w ++ u) = blankOut w ++ blankOut u := by
  fun_induction blankOut w with
  | case1 => rfl
  | case2 w ih => rw [List.cons_append, blankOut, ih]; rfl
  | case3 w ih => rw [List.cons_append, List.cons_append, blankOut, ih]; rfl
  | case4 c w hn hr ih =>
    rw [List.cons_append, blankOut_cons, ih, List.cons_append]
    exact (atLineEnd_append hu).not.2 (not_atLineEnd hn hr)

theorem not_atLineEnd_append_newline (hc : ¬ AtLineEnd c w) (hw : c = '\r' → w ≠ []) (v : List Char) :
    ¬ AtLineEnd c (w ++ '\n' :: v) := by
  cases w with
  | nil =>
    rintro (h | ⟨h, -⟩)
    · exact hc (.inl h)
    · exact hw h rfl
  | cons d w => exact hc

theorem blankOut_append_newline (w t : List Char) :
    blankOut (w ++ '\n' :: t) = blankOut (w ++ ['\n']) ++ blankOut t := by
  fun_induction blankOut w with
  | case1 => rw [List.nil_append, blankOut]; rfl
  | case2 w ih => rw [List.cons_append, blankOut, ih]; rfl
  | case3 w ih => rw [List.cons_append, List.cons_append, blankOut, ih]; rfl
  | case4 c w hn hr ih =>
    by_cases h : c = '\r' ∧ w = []
    · obtain ⟨rfl, rfl⟩ := h
      rw [List.cons_append, List.nil_append, blankOut]
      rfl
    · have hc : ∀ v, ¬ AtLineEnd c (w ++ '\n' :: v) :=
        not_atLineEnd_append_newline (not_atLineEnd hn hr) fun hr hnil => h ⟨hr, hnil⟩
      rw [List.cons_append, blankOut_cons (hc t), ih, List.cons_append, blankOut_cons (hc [])]
      rfl

end

end Guideline.Source
