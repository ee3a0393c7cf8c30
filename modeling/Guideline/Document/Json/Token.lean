import Guideline.Document.Value

/-!
# JSON tokens

A text is a sequence of characters and of halves of characters, which are written as escapes; two
matching halves make a character.
-/

namespace Guideline.Document.Json

/-- A piece of a text: a character, or one half of a character beyond the first 65536. -/
inductive TextUnit where
  | char (c : Char)
  | half (n : Nat)
deriving DecidableEq, Repr

/-- The unit with a 16-bit number. -/
def TextUnit.ofNat (n : Nat) : TextUnit :=
  if 0xD800 ≤ n ∧ n ≤ 0xDFFF then .half n else .char (Char.ofNat n)

/-- The characters of a sequence of units, if each first half stands before a second half. -/
def joinUnits : List TextUnit → Option (List Char)
  | [] => some []
  | .char c :: rest => (joinUnits rest).map (c :: ·)
  | .half m :: .half n :: rest =>
    if m < 0xDC00 ∧ 0xDC00 ≤ n then
      (joinUnits rest).map (Char.ofNat (0x10000 + (m - 0xD800) * 0x400 + (n - 0xDC00)) :: ·)
    else none
  | .half _ :: _ => none

/-- The character that a one-letter escape stands for. -/
def escape? (c : Char) : Option Char :=
  if c = '"' || c = '\\' || c = '/' then some c
  else if c = 'b' then some '\x08'
  else if c = 'f' then some '\x0c'
  else if c = 'n' then some '\n'
  else if c = 'r' then some '\r'
  else if c = 't' then some '\t'
  else none

/-- The units of a text after its opening quote, and what follows its closing quote. -/
def readText : List Char → Option (List TextUnit × List Char)
  | [] => none
  | '"' :: rest => some ([], rest)
  | '\\' :: 'u' :: a :: b :: c :: d :: rest => do
    let n ← Text.digitsValue? 16 Text.hexDigit? [a, b, c, d]
    let (units, after) ← readText rest
    return (.ofNat n :: units, after)
  | '\\' :: c :: rest => do
    let e ← escape? c
    let (units, after) ← readText rest
    return (.char e :: units, after)
  | c :: rest =>
    if c.toNat < 0x20 then none
    else do
      let (units, after) ← readText rest
      return (.char c :: units, after)

theorem length_readText {cs after : List Char} {units : List TextUnit}
    (h : readText cs = some (units, after)) : after.length < cs.length := by
  fun_induction readText cs generalizing units after with
  | case1 => simp at h
  | case2 rest => simp_all
  | case3 a b c d rest ih =>
    simp only [Option.bind_eq_bind, Option.bind_eq_some_iff, Prod.exists] at h
    obtain ⟨n, -, us, more, hr, h⟩ := h
    have := ih hr
    simp_all only [Option.pure_def, Option.some.injEq, Prod.mk.injEq, List.length_cons]
    obtain ⟨-, rfl⟩ := h
    omega
  | case4 c rest _ ih =>
    simp only [Option.bind_eq_bind, Option.bind_eq_some_iff, Prod.exists] at h
    obtain ⟨n, -, us, more, hr, h⟩ := h
    have := ih hr
    simp_all only [Option.pure_def, Option.some.injEq, Prod.mk.injEq, List.length_cons]
    obtain ⟨-, rfl⟩ := h
    omega
  | case5 => simp at h
  | case6 c rest _ _ _ _ ih =>
    simp only [Option.bind_eq_bind, Option.bind_eq_some_iff, Prod.exists] at h
    obtain ⟨us, more, hr, h⟩ := h
    have := ih hr
    simp_all only [Option.pure_def, Option.some.injEq, Prod.mk.injEq, List.length_cons]
    obtain ⟨-, rfl⟩ := h
    omega

/-- One or more decimal digits. -/
def isDigits (cs : List Char) : Bool :=
  !cs.isEmpty && cs.all Char.isDigit

/-- Decimal digits without a zero before others. -/
def isWhole (cs : List Char) : Bool :=
  isDigits cs && (cs.length = 1 || cs.head? != some '0')

/-- What may follow the whole part of a number: a fraction, then an exponent. -/
def isNumberTail (cs : List Char) : Bool :=
  let isExponent : List Char → Bool
    | [] => true
    | e :: '+' :: digits | e :: '-' :: digits => (e = 'e' || e = 'E') && isDigits digits
    | e :: digits => (e = 'e' || e = 'E') && isDigits digits
  match cs with
  | '.' :: rest =>
    isDigits (rest.takeWhile Char.isDigit) && isExponent (rest.dropWhile Char.isDigit)
  | _ => isExponent cs

/-- The value of a run of letters, digits, signs and points. -/
def wordValue? (cs : List Char) : Option Value :=
  if cs = "null".toList then some .null
  else if cs = "true".toList then some (.bool true)
  else if cs = "false".toList then some (.bool false)
  else if isWhole cs then (Text.digitsValue? 10 Text.decimalDigit? cs).map .count
  else
    let unsigned := match cs with
      | '-' :: rest => rest
      | _ => cs
    if isWhole (unsigned.takeWhile Char.isDigit) && isNumberTail (unsigned.dropWhile Char.isDigit)
    then some .other
    else none

inductive Token where
  | openTable
  | closeTable
  | openList
  | closeList
  | comma
  | colon
  /-- A text; `none` if it has half a character. -/
  | text (s : Option String)
  /-- Another value that holds no values. -/
  | plain (v : Value)

/-- The token that one character makes. -/
def mark? (c : Char) : Option Token :=
  if c = '\x7b' then some .openTable
  else if c = '\x7d' then some .closeTable
  else if c = '[' then some .openList
  else if c = ']' then some .closeList
  else if c = ',' then some .comma
  else if c = ':' then some .colon
  else none

def isSpace (c : Char) : Bool :=
  c == ' ' || c == '\n' || c == '\t' || c == '\r'

def isWordChar (c : Char) : Bool :=
  c.isAlphanum || c == '+' || c == '-' || c == '.'

/-- Reads the tokens of a JSON text. -/
def tokens? : List Char → Option (List Token)
  | [] => some []
  | c :: rest =>
    if isSpace c then tokens? rest
    else if c = '"' then
      match h : readText rest with
      | none => none
      | some (units, after) =>
        have := length_readText h
        (tokens? after).map (.text ((joinUnits units).map String.ofList) :: ·)
    else
      match mark? c with
      | some m => (tokens? rest).map (m :: ·)
      | none =>
        if isWordChar c then do
          let v ← wordValue? (c :: rest.takeWhile isWordChar)
          let more ← tokens? (rest.dropWhile isWordChar)
          return .plain v :: more
        else none
termination_by cs => cs.length
decreasing_by
  all_goals simp only [List.length_cons]
  · omega
  · omega
  · omega
  · exact Nat.lt_succ_of_le (List.dropWhile_sublist _).length_le

end Guideline.Document.Json
