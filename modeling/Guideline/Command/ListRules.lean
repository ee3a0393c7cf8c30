import Guideline.Command.Outcome

/-!
# The list of rules
-/

namespace Guideline.Command

/-- Fills a text up with blanks to a width. -/
def padTo (width : Nat) (text : String) : String :=
  text ++ String.ofList (List.replicate (width - text.length) ' ')

/-- A line of the list. -/
def tableRow (id category severity description : String) : String :=
  let columns := [padTo 26 id, padTo 14 category, padTo 8 severity, description]
  " ".intercalate columns ++ "\n"

/-- The lines on an example. -/
def exampleRows (e : Example) : String :=
  let margin := padTo 26 ""
  s!"{margin} good: {e.good}\n{margin} bad:  {e.bad}\n"

/-- The lines on a rule, with its examples if they are asked for. -/
def ruleRows (verbose : Bool) (r : Rule) : String :=
  tableRow r.id r.category.name r.severity.name r.description
    ++ if verbose then String.join (r.examples.map exampleRows) else ""

/-- The list of the rules of a configuration. -/
def ruleTable (c : Configuration) (verbose : Bool) : String :=
  let dashes := String.ofList (List.replicate 90 '-')
  s!"Rules ({c.rules.size} from {c.origin.label} config):\n\n"
    ++ tableRow "Rule" "Category" "Severity" "Description"
    ++ dashes ++ "\n"
    ++ String.join (c.rules.rules.map (ruleRows verbose))
    ++ "\nOverride a rule in guidelint.toml, e.g.:\n  [rules.function_length]\n  max = 80\n"

/-- Prints the rules of a run. -/
def listRules (config : Option String) (verbose : Bool) : RunM Nat := do
  let s ← RunM.surroundings
  let c ← MonadExcept.ofExcept ((Configuration.load s.tree s.userConfig config).mapError .config)
  RunM.print (ruleTable c verbose)
  return 0

end Guideline.Command
