import Guideline.Command.Check
import Guideline.Command.Help
import Guideline.Command.Init
import Guideline.Command.ListRules

/-!
# Runs of the program
-/

namespace Guideline.Command

/-- What a run does where the arguments ask for none. -/
def Halt.run : Halt → RunM Nat
  | .usage => throw .usage
  | .help topic => do
    RunM.print topic.text
    return 0
  | .version => do
    RunM.print versionText
    return 0
  | .nothing => return 2

/-- Runs what the arguments ask for. -/
def Invocation.run (i : Invocation) : RunM Nat :=
  match i.request with
  | .check r => r.run i.config
  | .listRules => listRules i.config i.verbose
  | .init force withDefaults => startConfig force withDefaults

/-- Runs the program on its arguments. -/
def run (arguments : List String) (s : Surroundings) : Outcome :=
  match Invocation.ofArguments arguments with
  | .ok invocation => invocation.run.outcome s
  | .error halt => halt.run.outcome s

end Guideline.Command
