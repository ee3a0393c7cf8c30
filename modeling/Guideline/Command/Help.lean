import Guideline.Command.Arguments

/-!
# Help texts
-/

namespace Guideline.Command

def unlines (lines : List String) : String :=
  String.join (lines.map (· ++ "\n"))

/-- The text for a request for the version. -/
def versionText : String := "guidelint 0.1.0\n"

def programHelp : String :=
  unlines ["CLI tool for guidelint, a guideline linter for C and C++ sources",
    "",
    "Usage: guidelint [OPTIONS] <COMMAND>",
    "",
    "Commands:",
    "  check       Run guideline checks",
    "  list-rules  List the effective rules",
    "  init        Initialize configuration file",
    "  help        Print this message or the help of the given subcommand(s)",
    "",
    "Options:",
    "  -v, --verbose          Enable verbose output",
    "  -c, --config <CONFIG>  Path to configuration file (TOML, or JSON with a .json extension)",
    "  -h, --help             Print help",
    "  -V, --version          Print version"]

def checkHelp : String :=
  unlines ["Run guideline checks",
    "",
    "Usage: guidelint check [OPTIONS] [PATHS]...",
    "",
    "Arguments:",
    "  [PATHS]...",
    "          Files or directories to analyze [default: .]",
    "",
    "Options:",
    "  -v, --verbose",
    "          Enable verbose output",
    "  -c, --config <CONFIG>",
    "          Path to configuration file (TOML, or JSON with a .json extension)",
    "  -f, --format <FORMAT>",
    "          Output format: text, json, markdown (alias pr-comment) or compact [default: text]",
    "  -o, --output <OUTPUT>",
    "          Write the report to a file instead of stdout",
    "      --diff [<REF>]",
    "          Only report lines changed since REF (compared as REF...HEAD)",
    "      --staged",
    "          Only report lines changed in the staged index",
    "      --pr <PR>",
    "          Only analyze files touched by a GitHub pull request (OWNER/REPO/NUMBER)",
    "      --github-token <GITHUB_TOKEN>",
    "          GitHub token for --pr [env: GITHUB_TOKEN]",
    "      --fallback-full",
    "          Analyze full files when the change scope cannot be computed",
    "  -w, --workers <WORKERS>",
    "          Worker threads (default: available parallelism)",
    "  -e, --exclude <EXCLUDE>",
    "          Exclude patterns (can be specified multiple times)",
    "      --fail-on-warnings",
    "          Fail on warnings as well as errors",
    "  -h, --help",
    "          Print help"]

def listRulesHelp : String :=
  unlines ["List the effective rules",
    "",
    "Usage: guidelint list-rules [OPTIONS]",
    "",
    "Options:",
    "  -v, --verbose          Enable verbose output",
    "  -c, --config <CONFIG>  Path to configuration file (TOML, or JSON with a .json extension)",
    "  -h, --help             Print help"]

def initHelp : String :=
  unlines ["Initialize configuration file",
    "",
    "Usage: guidelint init [OPTIONS]",
    "",
    "Options:",
    "      --force            Overwrite existing config",
    "  -v, --verbose          Enable verbose output",
    "  -c, --config <CONFIG>  Path to configuration file (TOML, or JSON with a .json extension)",
    "      --with-defaults    Write the full built-in rule set into the file",
    "  -h, --help             Print help"]

def helpHelp : String :=
  unlines ["Print this message or the help of the given subcommand(s)",
    "",
    "Usage: guidelint help [COMMAND]...",
    "",
    "Arguments:",
    "  [COMMAND]...  Print help for the subcommand(s)"]

def Topic.text : Topic → String
  | .program => programHelp
  | .action .check => checkHelp
  | .action .listRules => listRulesHelp
  | .action .init => initHelp
  | .help => helpHelp

end Guideline.Command
