import Guideline.Document.Value
import Guideline.Text.Affix

/-!
# TOML numbers, dates and times

These are words of digits, letters and signs. Only a whole number from zero is a value of its own:
other numbers, dates and times are checked and then fit no record.
-/

namespace Guideline.Document.Toml

/-- Groups of one or more digits with single `_` between them. -/
def isGrouped (digit? : Char → Option Nat) (cs : List Char) : Bool :=
  (Text.splitAtChar '_' cs).all fun group => !group.isEmpty && group.all fun c => (digit? c).isSome

/-- The number that grouped digits write. -/
def grouped? (base : Nat) (digit? : Char → Option Nat) (cs : List Char) : Option Nat :=
  if isGrouped digit? cs then Text.digitsValue? base digit? (cs.filter (· ≠ '_')) else none

/-- Grouped decimal digits without a zero before others. -/
def isDecimal (cs : List Char) : Bool :=
  isGrouped Text.decimalDigit? cs && (cs.length = 1 || cs.head? != some '0')

/-- The largest integer. -/
def maxInteger : Nat := Nat.pow 2 63 - 1

/-- An optional sign, and what follows it. -/
def splitSign : List Char → Bool × List Char
  | '-' :: rest => (true, rest)
  | '+' :: rest => (false, rest)
  | cs => (false, cs)

def integer? (cs : List Char) : Option Value :=
  let bounded := fun n => if n ≤ maxInteger then some (Value.count n) else none
  match cs with
  | '0' :: 'x' :: digits => (grouped? 16 Text.hexDigit? digits).bind bounded
  | '0' :: 'o' :: digits => (grouped? 8 Text.octalDigit? digits).bind bounded
  | '0' :: 'b' :: digits => (grouped? 2 Text.binaryDigit? digits).bind bounded
  | _ => do
    let (negative, digits) := splitSign cs
    guard (isDecimal digits)
    let n ← grouped? 10 Text.decimalDigit? digits
    if negative && n ≠ 0 then if n ≤ maxInteger + 1 then some .other else none
    else bounded n

/-- The least number that is taken as infinite: half a step above the largest double. -/
def leastInfinite : Nat := Nat.pow 2 1024 - Nat.pow 2 970

/-- `m * 10 ^ e` is infinite as a double. The number of digits decides, except near the limit. -/
def isInfinite (m : Nat) (e : Int) : Bool :=
  let size := (Nat.toDigits 10 m).length + e
  if m = 0 || size ≤ 308 then false
  else if 310 ≤ size then true
  else if 0 ≤ e then leastInfinite ≤ m * Nat.pow 10 e.toNat
  else leastInfinite * Nat.pow 10 (-e).toNat ≤ m

/-- The exponent after the `e` of a number. -/
def exponent? (cs : List Char) : Option Int := do
  let (negative, digits) := splitSign cs
  let n ← grouped? 10 Text.decimalDigit? digits
  return if negative then -n else n

/-- A number with a fraction or an exponent, not above all doubles. -/
def isFloat (cs : List Char) : Bool :=
  let (negative, digits) := splitSign cs
  if digits = "inf".toList || digits = "nan".toList then true
  else
    let mantissa := digits.takeWhile fun c => c ≠ 'e' && c ≠ 'E'
    let (fraction, exponent) :=
      (match mantissa.dropWhile (· ≠ '.') with
        | [] => some []
        | _ :: fraction => if isGrouped Text.decimalDigit? fraction then some fraction else none,
       match digits.drop mantissa.length with
        | [] => some 0
        | _ :: exponent => exponent? exponent)
    let whole := mantissa.takeWhile (· ≠ '.')
    match fraction, exponent, Text.digitsValue? 10 Text.decimalDigit?
        ((whole ++ fraction.getD []).filter (· ≠ '_')) with
    | some fraction, some exponent, some m =>
      whole ≠ digits && isDecimal whole
        && (negative || !isInfinite m (exponent - (fraction.filter (· ≠ '_')).length))
    | _, _, _ => false

/-- The days of a month. -/
def daysIn (year month : Nat) : Nat :=
  if month = 2 then
    if year % 4 = 0 && (year % 100 ≠ 0 || year % 400 = 0) then 29 else 28
  else if [4, 6, 9, 11].contains month then 30
  else 31

/-- What follows a date at the start of a text. -/
def afterDate? : List Char → Option (List Char)
  | y₁ :: y₂ :: y₃ :: y₄ :: '-' :: m₁ :: m₂ :: '-' :: d₁ :: d₂ :: rest => do
    let year ← Text.digitsValue? 10 Text.decimalDigit? [y₁, y₂, y₃, y₄]
    let month ← Text.digitsValue? 10 Text.decimalDigit? [m₁, m₂]
    let day ← Text.digitsValue? 10 Text.decimalDigit? [d₁, d₂]
    guard (1 ≤ month ∧ month ≤ 12 ∧ 1 ≤ day ∧ day ≤ daysIn year month)
    return rest
  | _ => none

/-- Two digits that write at most `limit`. -/
def isUpTo (limit : Nat) (a b : Char) : Bool :=
  match Text.digitsValue? 10 Text.decimalDigit? [a, b] with
  | some n => n ≤ limit
  | none => false

/-- What follows a time at the start of a text. -/
def afterTime? : List Char → Option (List Char)
  | h₁ :: h₂ :: ':' :: m₁ :: m₂ :: ':' :: s₁ :: s₂ :: rest =>
    if isUpTo 23 h₁ h₂ && isUpTo 59 m₁ m₂ && isUpTo 60 s₁ s₂ then
      match rest with
      | '.' :: f :: fraction => if f.isDigit then some (fraction.dropWhile Char.isDigit) else none
      | _ => some rest
    else none
  | _ => none

/-- An optional distance from universal time. -/
def isOffset : List Char → Bool
  | [] | ['Z'] | ['z'] => true
  | [sign, h₁, h₂, ':', m₁, m₂] =>
    (sign = '+' || sign = '-') && isUpTo 23 h₁ h₂ && isUpTo 59 m₁ m₂
  | _ => false

/-- A date, a time, or both with an optional distance from universal time. -/
def isMoment (cs : List Char) : Bool :=
  match afterDate? cs with
  | some [] => true
  | some (divider :: rest) =>
    (divider = 'T' || divider = 't' || divider = ' ') && (afterTime? rest).any isOffset
  | none => afterTime? cs = some []

/-- The value of a word. -/
def wordValue? (cs : List Char) : Option Value :=
  if cs = "true".toList then some (.bool true)
  else if cs = "false".toList then some (.bool false)
  else if isMoment cs || isFloat cs then some .other
  else integer? cs

end Guideline.Document.Toml
