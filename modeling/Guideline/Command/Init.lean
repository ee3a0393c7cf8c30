import Guideline.Command.Outcome

/-!
# Starting a configuration file
-/

namespace Guideline.Command

/-- The first lines of a new configuration file. -/
def starterHead : List String :=
  ["# guidelint configuration",
    "",
    "# Start from the built-in rule set (\"default\") or from nothing (\"empty\")"]

/-- The lines of a new configuration file after its base. -/
def starterBody : List String :=
  ["",
    "# Exit non-zero on \"error\" violations, or on \"warning\" as well",
    "fail_on = \"error\"",
    "",
    "[analyzer]",
    "extensions = [\"cpp\", \"cc\", \"cxx\", \"c\", \"h\", \"hpp\", \"hxx\", \"hh\"]",
    "header_extensions = [\"h\", \"hpp\", \"hxx\", \"hh\"]",
    "exclude = [\"**/build/**\", \"**/third_party/**\"]",
    "# workers = 4",
    "# Keep only the most severe violation per line",
    "dedupe_same_line = false",
    "",
    "# Override a built-in rule",
    "# [rules.function_length]",
    "# severity = \"error\"",
    "# max = 80",
    "",
    "# [rules.line_length]",
    "# enabled = false",
    "",
    "# Add a rule",
    "# [[rule]]",
    "# id = \"no_goto\"",
    "# category = \"best_practice\"",
    "# description = \"Avoid goto\"",
    "# severity = \"warning\"",
    "# keywords = [\"goto\"]"]

/-- A new configuration file on top of the given base. -/
def starter (base : String) : String :=
  let baseLine := s!"base = \"{base}\""
  String.join ((starterHead ++ baseLine :: starterBody).map (· ++ "\n"))

/-- A new configuration file: on top of the built-in rules, or with all of them written out. -/
def starterConfig (withDefaults : Bool) : String :=
  if withDefaults then starter "empty" ++ "\n" ++ Builtin.document else starter "default"

/-- The configuration file that is written. -/
def configFile : String := "guidelint.toml"

/-- Writes a new configuration file. One that is there is only overwritten by force. -/
def startConfig (force withDefaults : Bool) : RunM Nat := do
  let s ← RunM.surroundings
  if s.tree.isPresent configFile && !force then throw (.configExists configFile)
  RunM.writeFile configFile (starterConfig withDefaults) (.configWrite configFile)
  RunM.print "Created guidelint.toml\n"
  RunM.print "\nNext steps:\n"
  RunM.print "  1. Edit guidelint.toml to configure rules\n"
  RunM.print "  2. Run: guidelint check\n"
  return 0

end Guideline.Command
