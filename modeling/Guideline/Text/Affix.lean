/-!
# Beginnings, endings and occurrences

Tests on texts as lists of characters.
-/

namespace Guideline.Text

/-- What follows `pre` at the start of `cs`, if `cs` starts with it. -/
def after? : (pre cs : List Char) → Option (List Char)
  | [], cs => some cs
  | _ :: _, [] => none
  | p :: pre, c :: cs => if p = c then after? pre cs else none

/-- `cs` starts with `pre`. -/
def startsWith (pre cs : List Char) : Bool :=
  (after? pre cs).isSome

/-- `cs` ends with the character `c`. -/
def endsWithChar (c : Char) (cs : List Char) : Bool :=
  cs.getLast? == some c

/-- `sub` occurs somewhere in `cs`. -/
def occurs (sub : List Char) : List Char → Bool
  | [] => sub.isEmpty
  | c :: cs => startsWith sub (c :: cs) || occurs sub cs

/-- The pieces of `cs` between the characters `sep`; there is always at least one. -/
def splitAtChar (sep : Char) : List Char → List (List Char)
  | [] => [[]]
  | c :: cs =>
    match splitAtChar sep cs with
    | [] => [[c]]
    | piece :: more => if c = sep then [] :: piece :: more else (c :: piece) :: more

/-- Replaces the occurrences of `old` from the left, leaving out the next `skip` characters. -/
def replaceFrom (old new : List Char) : (skip : Nat) → List Char → List Char
  | _, [] => []
  | skip + 1, _ :: cs => replaceFrom old new skip cs
  | 0, c :: cs =>
    if startsWith old (c :: cs) then new ++ replaceFrom old new (old.length - 1) cs
    else c :: replaceFrom old new 0 cs

/-- Replaces the occurrences of `old`, which is not empty, from the left. -/
def replaceAll (old new cs : List Char) : List Char :=
  replaceFrom old new 0 cs

/-- All endings of a text, from the whole text to the empty one. -/
def endings : List Char → List (List Char)
  | [] => [[]]
  | c :: cs => (c :: cs) :: endings cs

end Guideline.Text
