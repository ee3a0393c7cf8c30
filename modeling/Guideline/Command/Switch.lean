import Guideline.Command.PullRequest
import Guideline.Report.Format

/-!
# Switches

The switches of the command line: how they are written, and what values they take.
-/

namespace Guideline.Command

inductive Switch where
  | help
  | version
  | verbose
  | config
  | format
  | output
  | diff
  | staged
  | pr
  | githubToken
  | fallbackFull
  | workers
  | exclude
  | failOnWarnings
  | force
  | withDefaults
deriving DecidableEq, Repr

/-- Whether a value follows a switch. -/
inductive Operand where
  | absent
  | required
  /-- The value may be left out, and is then the given one. -/
  | optional (default : String)
deriving DecidableEq, Repr

namespace Switch

/-- The name after `--`. -/
def long : Switch → String
  | .help => "help"
  | .version => "version"
  | .verbose => "verbose"
  | .config => "config"
  | .format => "format"
  | .output => "output"
  | .diff => "diff"
  | .staged => "staged"
  | .pr => "pr"
  | .githubToken => "github-token"
  | .fallbackFull => "fallback-full"
  | .workers => "workers"
  | .exclude => "exclude"
  | .failOnWarnings => "fail-on-warnings"
  | .force => "force"
  | .withDefaults => "with-defaults"

/-- The letter after `-`, if there is one. -/
def short? : Switch → Option Char
  | .help => some 'h'
  | .version => some 'V'
  | .verbose => some 'v'
  | .config => some 'c'
  | .format => some 'f'
  | .output => some 'o'
  | .workers => some 'w'
  | .exclude => some 'e'
  | _ => none

def operand : Switch → Operand
  | .config | .format | .output | .pr | .githubToken | .workers | .exclude => .required
  | .diff => .optional "main"
  | _ => .absent

/-- The switch may be given more than once. -/
def isRepeatable (s : Switch) : Bool :=
  s = .exclude

/-- The switch takes this value. -/
def accepts (s : Switch) (value : String) : Bool :=
  match s with
  | .config | .output => !value.isEmpty
  | .format => (ReportFormat.ofName? value).isSome
  | .pr => (PullRequest.read? value).isSome
  | .workers => (Text.readCount? value.toList).isSome
  | _ => true

end Switch

/-- The commands of the program. -/
inductive Action where
  | check
  | listRules
  | init
deriving DecidableEq, Repr

namespace Action

def ofName? (name : String) : Option Action :=
  if name = "check" then some .check
  else if name = "list-rules" then some .listRules
  else if name = "init" then some .init
  else none

/-- The switches of a command beside those of every command. -/
def switches : Action → List Switch
  | .check =>
    [.format, .output, .diff, .staged, .pr, .githubToken, .fallbackFull, .workers, .exclude,
      .failOnWarnings]
  | .listRules => []
  | .init => [.force, .withDefaults]

end Action

/-- The switches after a command, or before one. -/
def switchesOf : Option Action → List Switch
  | none => [.verbose, .config, .help, .version]
  | some action => action.switches ++ [.verbose, .config, .help]

end Guideline.Command
