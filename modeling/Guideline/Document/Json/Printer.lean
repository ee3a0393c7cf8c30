import Guideline.Document.Value

/-!
# Writing JSON

Values are written over several lines, two blanks deeper for each list and table around them.
-/

namespace Guideline.Document.Json

/-- The lower-case hexadecimal digit of a number below 16. -/
def hexDigit (n : Nat) : Char :=
  if n < 10 then Char.ofNat ('0'.toNat + n) else Char.ofNat ('a'.toNat + (n - 10))

/-- A character of a text between quotes. Quotes, backslashes and control characters are escaped. -/
def escapeChar (c : Char) : List Char :=
  if c = '"' then ['\\', '"']
  else if c = '\\' then ['\\', '\\']
  else if c = '\x08' then ['\\', 'b']
  else if c = '\t' then ['\\', 't']
  else if c = '\n' then ['\\', 'n']
  else if c = '\x0c' then ['\\', 'f']
  else if c = '\r' then ['\\', 'r']
  else if c.toNat < 0x20 then
    ['\\', 'u', '0', '0', hexDigit (c.toNat / 16), hexDigit (c.toNat % 16)]
  else [c]

def writeText (s : String) : List Char :=
  '"' :: s.toList.flatMap escapeChar ++ ['"']

/-- A new line at a depth. -/
def newline (depth : Nat) : List Char :=
  '\n' :: List.replicate (2 * depth) ' '

mutual
/-- Writes a value at a depth. What no record can hold is written as nothing. -/
def write (depth : Nat) : Value → List Char
  | .null | .other => "null".toList
  | .bool b => (if b then "true" else "false").toList
  | .count n => Nat.toDigits 10 n
  | .text s => writeText s
  | .list [] => ['[', ']']
  | .list (v :: rest) =>
    '[' :: newline (depth + 1) ++ write (depth + 1) v ++ writeItems (depth + 1) rest
      ++ newline depth ++ [']']
  | .table [] => ['\x7b', '\x7d']
  | .table ((key, v) :: rest) =>
    '\x7b' :: newline (depth + 1) ++ writeText key ++ ':' :: ' ' :: write (depth + 1) v
      ++ writeEntries (depth + 1) rest ++ newline depth ++ ['\x7d']

/-- The items of a list after the first one. -/
def writeItems (depth : Nat) : List Value → List Char
  | [] => []
  | v :: rest => ',' :: newline depth ++ write depth v ++ writeItems depth rest

/-- The entries of a table after the first one. -/
def writeEntries (depth : Nat) : List (String × Value) → List Char
  | [] => []
  | (key, v) :: rest =>
    ',' :: newline depth ++ writeText key ++ ':' :: ' ' :: write depth v ++ writeEntries depth rest
end

end Guideline.Document.Json
