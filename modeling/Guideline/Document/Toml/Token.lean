import Guideline.Document.Toml.Scalar

/-!
# TOML tokens

Comments are dropped: they go up to the end of a line, which is a token of its own.
-/

namespace Guideline.Document.Toml

inductive Token where
  /-- A quoted text; only one that stands on one line can be a key. -/
  | text (s : String) (isOneLine : Bool)
  /-- A run of letters, digits and the signs of numbers and dates. -/
  | word (cs : List Char)
  /-- One of the characters `=`, `,`, `[`, `]`, `{` and `}`. -/
  | mark (c : Char)
  | blank
  | newline
deriving DecidableEq, Repr

/-- Characters of comments and texts: all but control characters other than the tab. -/
def isPrintable (c : Char) : Bool :=
  c == '\t' || (0x20 ≤ c.toNat && c.toNat != 0x7F)

def isBlank (c : Char) : Bool :=
  c == ' ' || c == '\t'

/-- Only blanks stand before the end of the line. -/
def endsLine (cs : List Char) : Bool :=
  match cs.dropWhile isBlank with
  | '\n' :: _ | '\r' :: '\n' :: _ => true
  | _ => false

/-- The text without a line end at its start. -/
def dropNewline : List Char → List Char
  | '\n' :: rest | '\r' :: '\n' :: rest => rest
  | cs => cs

/-- The character that a one-letter escape stands for. -/
def escape? (c : Char) : Option Char :=
  if c = '"' || c = '\\' then some c
  else if c = 'b' then some '\x08'
  else if c = 'f' then some '\x0c'
  else if c = 'n' then some '\n'
  else if c = 'r' then some '\r'
  else if c = 't' then some '\t'
  else none

/-- The character with the number that hexadecimal digits write. -/
def hexChar? (digits : List Char) : Option Char := do
  let n ← Text.digitsValue? 16 Text.hexDigit? digits
  if n.isValidChar then some (Char.ofNat n) else none

/-- Puts a character, if there is one, in front of a text that was read. -/
def withChar (c : Option Char) (read : Option (List Char × List Char)) :
    Option (List Char × List Char) :=
  match c, read with
  | some c, some (text, after) => some (c :: text, after)
  | _, _ => none

/-- The end of a text of several lines after one quote: two quotes more close it, and up to two of
five quotes in a row belong to the text. -/
def closing? (quote : Char) : List Char → Option (List Char × List Char)
  | a :: b :: c :: d :: rest =>
    if a = quote && b = quote then
      if c = quote && d = quote then some ([quote, quote], rest)
      else if c = quote then some ([quote], d :: rest)
      else some ([], c :: d :: rest)
    else none
  | [a, b, c] =>
    if a = quote && b = quote then if c = quote then some ([quote], []) else some ([], [c])
    else none
  | [a, b] => if a = quote && b = quote then some ([], []) else none
  | _ => none

/-- The text after an opening `"`, and what follows its closing. A `\` at the end of a line starts
`skipping`, which leaves out blanks and line ends. -/
def readBasic (severalLines skipping : Bool) : List Char → Option (List Char × List Char)
  | [] => none
  | '"' :: rest =>
    if !severalLines then some ([], rest)
    else
      match closing? '"' rest with
      | some closed => some closed
      | none => withChar (some '"') (readBasic severalLines false rest)
  | '\\' :: 'u' :: a :: b :: c :: d :: rest =>
    withChar (hexChar? [a, b, c, d]) (readBasic severalLines false rest)
  | '\\' :: 'U' :: a :: b :: c :: d :: e :: f :: g :: h :: rest =>
    withChar (hexChar? [a, b, c, d, e, f, g, h]) (readBasic severalLines false rest)
  | '\\' :: c :: rest =>
    if severalLines && endsLine (c :: rest) then readBasic severalLines true rest
    else withChar (escape? c) (readBasic severalLines false rest)
  | '\r' :: '\n' :: rest =>
    if !severalLines then none
    else if skipping then readBasic severalLines true rest
    else withChar (some '\n') (readBasic severalLines false rest)
  | c :: rest =>
    if severalLines && c = '\n' then
      if skipping then readBasic severalLines true rest
      else withChar (some '\n') (readBasic severalLines false rest)
    else if skipping && isBlank c then readBasic severalLines true rest
    else if isPrintable c then withChar (some c) (readBasic severalLines false rest)
    else none

/-- The text after an opening `'`, which has no escapes, and what follows its closing. -/
def readLiteral (severalLines : Bool) : List Char → Option (List Char × List Char)
  | [] => none
  | '\'' :: rest =>
    if !severalLines then some ([], rest)
    else
      match closing? '\'' rest with
      | some closed => some closed
      | none => withChar (some '\'') (readLiteral severalLines rest)
  | '\r' :: '\n' :: rest =>
    if severalLines then withChar (some '\n') (readLiteral severalLines rest) else none
  | c :: rest =>
    if isPrintable c || (severalLines && c = '\n') then
      withChar (some c) (readLiteral severalLines rest)
    else none

theorem length_closing {quote : Char} {cs text after : List Char}
    (h : closing? quote cs = some (text, after)) : after.length < cs.length := by
  unfold closing? at h
  grind

theorem exists_of_withChar {c : Option Char} {read : Option (List Char × List Char)}
    {text after : List Char} (h : withChar c read = some (text, after)) :
    ∃ text', read = some (text', after) := by
  unfold withChar at h
  grind

theorem length_readBasic {severalLines skipping : Bool} {cs text after : List Char}
    (h : readBasic severalLines skipping cs = some (text, after)) : after.length < cs.length := by
  fun_induction readBasic severalLines skipping cs generalizing text <;>
    simp only [List.length_cons, List.length_nil] <;>
    grind [→ exists_of_withChar, → length_closing]

theorem length_readLiteral {severalLines : Bool} {cs text after : List Char}
    (h : readLiteral severalLines cs = some (text, after)) : after.length < cs.length := by
  fun_induction readLiteral severalLines cs generalizing text <;>
    simp only [List.length_cons, List.length_nil] <;>
    grind [→ exists_of_withChar, → length_closing]

theorem length_dropNewline (cs : List Char) : (dropNewline cs).length ≤ cs.length := by
  unfold dropNewline
  grind

/-- The token of a text that was read. -/
def textToken (isOneLine : Bool) : Option (List Char × List Char) → Option (Token × List Char)
  | some (text, after) => some (.text (String.ofList text) isOneLine, after)
  | none => none

theorem exists_of_textToken {isOneLine : Bool} {read : Option (List Char × List Char)} {t : Token}
    {after : List Char} (h : textToken isOneLine read = some (t, after)) :
    ∃ text, read = some (text, after) := by
  unfold textToken at h
  grind

/-- The quoted text at the start of a text, and what follows it. -/
def readText? : List Char → Option (Token × List Char)
  | '"' :: '"' :: '"' :: rest => textToken false (readBasic true false (dropNewline rest))
  | '"' :: rest => textToken true (readBasic false false rest)
  | '\'' :: '\'' :: '\'' :: rest => textToken false (readLiteral true (dropNewline rest))
  | '\'' :: rest => textToken true (readLiteral false rest)
  | _ => none

theorem length_readText {cs after : List Char} {t : Token} (h : readText? cs = some (t, after)) :
    after.length < cs.length := by
  unfold readText? at h
  split at h <;> grind [→ exists_of_textToken, → length_readBasic,
    → length_readLiteral, length_dropNewline]

def isMark (c : Char) : Bool :=
  ['=', ',', '[', ']', '\x7b', '\x7d'].contains c

def isBareChar (c : Char) : Bool :=
  c.isAlphanum || c == '_' || c == '-'

def isWordChar (c : Char) : Bool :=
  isBareChar c || c == '+' || c == '.' || c == ':'

/-- The word at the start of `cs`, and what follows it. A blank between a date and a time is part
of the word. -/
def readWord (cs : List Char) : List Char × List Char :=
  let first := cs.takeWhile isWordChar
  match cs.dropWhile isWordChar with
  | ' ' :: c :: rest =>
    if c.isDigit && afterDate? first = some [] then
      (first ++ ' ' :: c :: rest.takeWhile isWordChar, rest.dropWhile isWordChar)
    else (first, ' ' :: c :: rest)
  | rest => (first, rest)

theorem length_readWord {c : Char} {cs : List Char} (h : isWordChar c = true) :
    (readWord (c :: cs)).2.length < (c :: cs).length := by
  have hd : (cs.dropWhile isWordChar).length ≤ cs.length := (List.dropWhile_sublist _).length_le
  unfold readWord
  rw [List.dropWhile_cons_of_pos h]
  split
  · rename_i d rest heq
    have : (rest.dropWhile isWordChar).length ≤ rest.length := (List.dropWhile_sublist _).length_le
    grind
  · grind

/-- Reads the tokens of a TOML text. -/
def tokens? : List Char → Option (List Token)
  | [] => some []
  | c :: rest =>
    if isBlank c then (tokens? rest).map (.blank :: ·)
    else if c = '\n' then (tokens? rest).map (.newline :: ·)
    else if c = '\r' then if rest.head? = some '\n' then tokens? rest else none
    else if c = '#' then tokens? (rest.dropWhile isPrintable)
    else if isMark c then (tokens? rest).map (.mark c :: ·)
    else if h : isWordChar c then
      have := @length_readWord c rest h
      (tokens? (readWord (c :: rest)).2).map (.word (readWord (c :: rest)).1 :: ·)
    else
      match h : readText? (c :: rest) with
      | none => none
      | some (t, after) =>
        have := length_readText h
        (tokens? after).map (t :: ·)
termination_by cs => cs.length
decreasing_by
  all_goals try simp only [List.length_cons]
  · omega
  · omega
  · omega
  · exact Nat.lt_succ_of_le (List.dropWhile_sublist _).length_le
  · omega
  · assumption
  · assumption

end Guideline.Document.Toml
