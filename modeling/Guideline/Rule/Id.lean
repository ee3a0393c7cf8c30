/-!
# Rule identifiers
-/

namespace Guideline

/-- Why a text is no rule identifier. -/
inductive RuleIdError where
  | empty
  | invalid (id : String)
deriving DecidableEq, Repr

def RuleIdError.message : RuleIdError → String
  | .empty => "rule id must not be empty"
  | .invalid id => s!"invalid rule id `{id}`: only [a-z0-9_-] allowed"

/-- Characters of rule identifiers. -/
def isRuleIdChar (c : Char) : Bool :=
  c.isLower || c.isDigit || c == '_' || c == '-'

/-- Checks that a text is a rule identifier: not empty, and made of lower-case letters, digits,
`_` and `-` only. -/
def checkRuleId (id : String) : Except RuleIdError Unit :=
  if id.isEmpty then .error .empty
  else if id.toList.all isRuleIdChar then .ok ()
  else .error (.invalid id)

end Guideline
