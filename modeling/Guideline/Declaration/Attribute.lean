import Guideline.Source.Token

/-!
# Attributes

Attribute groups `[[...]]` say nothing about what a statement declares and are dropped before it
is read, like template parameter lists.
-/

namespace Guideline.Declaration

open Source

/-- Drops attribute groups; `depth` counts the open brackets of the group being dropped. -/
def dropAttributes : (depth : Nat) → List Token → List Token
  | _, [] => []
  | 0, t :: rest =>
    if t.isPunct '[' && rest.head?.any (·.isPunct '[') then dropAttributes 1 rest
    else t :: dropAttributes 0 rest
  | depth + 1, t :: rest =>
    if t.isPunct '[' then dropAttributes (depth + 2) rest
    else if t.isPunct ']' then dropAttributes depth rest
    else dropAttributes (depth + 1) rest

/-- The tokens of a statement that tell what it declares. -/
def declaringTokens (text : List Char) : List Token :=
  dropAttributes 0 (skipTemplate (tokenize text))

end Guideline.Declaration
