import Guideline.Change.Scope
import Guideline.Command.Switch

/-!
# Arguments

The arguments of a run: switches, the command, switches of the command, and for checks the paths. A
switch with a value takes it from behind a `=` or from the next argument, letters may stand together
behind one `-`, and after `--` there are only paths.
-/

namespace Guideline.Command

open Change

/-- What a request for help is about. -/
inductive Topic where
  | program
  | action (a : Action)
  | help
deriving DecidableEq, Repr

/-- Why the arguments give no run. -/
inductive Halt where
  /-- They cannot be understood. -/
  | usage
  | help (topic : Topic)
  | version
  /-- There are none. -/
  | nothing
deriving DecidableEq, Repr

/-- The arguments read so far. -/
structure Reading where
  action : Option Action := none
  /-- The switches before the command, with their values. -/
  outer : List (Switch × String) := []
  /-- The switches after the command, or as long as there is none before it, with their values. -/
  given : List (Switch × String) := []
  paths : List String := []
  /-- The switch that waits for its value. -/
  pending : Option Switch := none
  /-- Only paths follow. -/
  onlyPaths : Bool := false
deriving DecidableEq, Repr

namespace Reading

def topic (r : Reading) : Topic :=
  match r.action with
  | some action => .action action
  | none => .program

/-- Notes a switch with its value, which is empty for switches that take none. -/
def give (r : Reading) (s : Switch) (value : String) : Except Halt Reading :=
  if s = .help then .error (.help r.topic)
  else if s = .version then .error .version
  else if !s.isRepeatable && r.given.any (·.1 = s) then .error .usage
  else if !s.accepts value then .error .usage
  else .ok { r with given := r.given ++ [(s, value)], pending := none }

/-- Settles the switch that waits for a value, now that no value comes. -/
def settle (r : Reading) : Except Halt Reading :=
  match r.pending with
  | none => .ok r
  | some s =>
    match s.operand with
    | .optional value => give { r with pending := none } s value
    | _ => .error .usage

/-- Begins a switch; `value?` is the value written together with it. -/
def begin (r : Reading) (s : Switch) (value? : Option String) : Except Halt Reading := do
  let r ← r.settle
  match s.operand, value? with
  | .absent, none => r.give s ""
  | .absent, some _ => throw .usage
  | _, some value => r.give s value
  | _, none => return { r with pending := some s }

/-- Reads a switch by its name, given what follows the `--`. -/
def readLong (r : Reading) (cs : List Char) : Except Halt Reading :=
  let name := String.ofList (cs.takeWhile (· ≠ '='))
  let value? := match cs.dropWhile (· ≠ '=') with
    | _ :: value => some (String.ofList value)
    | [] => none
  match (switchesOf r.action).find? (·.long = name) with
  | some s => r.begin s value?
  | none => .error .usage

/-- Reads switches by their letters, given what follows the `-`. What stands behind the letter of a
switch with a value is that value. -/
def readLetters (r : Reading) : List Char → Except Halt Reading
  | [] => .ok r
  | c :: rest =>
    match (switchesOf r.action).find? (·.short? = some c) with
    | none => .error .usage
    | some s =>
      match s.operand, rest with
      | .absent, _ =>
        match r.begin s none with
        | .ok r => readLetters r rest
        | .error halt => .error halt
      | _, [] => r.begin s none
      | _, '=' :: value => r.begin s (some (String.ofList value))
      | _, value => r.begin s (some (String.ofList value))

/-- Reads an argument that is no switch: a path, where the command takes paths. -/
def readPath (r : Reading) (path : String) : Except Halt Reading := do
  let r ← r.settle
  if r.action = some .check && !path.isEmpty then return { r with paths := r.paths ++ [path] }
  else throw .usage

/-- Reads one argument, unless it is a command. -/
def readArgument (r : Reading) (argument : String) : Except Halt Reading :=
  if r.onlyPaths then r.readPath argument
  else
    match argument.toList with
    | ['-', '-'] => .ok { r with onlyPaths := true }
    | '-' :: '-' :: cs => r.readLong cs
    | '-' :: c :: cs => r.readLetters (c :: cs)
    | _ =>
      match r.pending with
      | some s => r.give s argument
      | none => r.readPath argument

/-- A command may come next. -/
def awaitsAction (r : Reading) : Bool :=
  r.action.isNone && r.pending.isNone && !r.onlyPaths

end Reading

/-- The help asked for by the words after the command `help`. -/
def helpHalt (topics : List String) : Halt :=
  match topics with
  | [] => .help .program
  | [name] =>
    match Action.ofName? name with
    | some action => .help (.action action)
    | none => if name = "help" then .help .help else .usage
  | _ => .usage

/-- Reads all arguments. -/
def readArguments (r : Reading) : List String → Except Halt Reading
  | [] => r.settle
  | argument :: rest =>
    if r.awaitsAction && argument = "help" then .error (helpHalt rest)
    else
      match r.awaitsAction, Action.ofName? argument with
      | true, some action =>
        readArguments { r with action := some action, outer := r.given, given := [] } rest
      | _, _ =>
        match r.readArgument argument with
        | .ok r => readArguments r rest
        | .error halt => .error halt

/-- What a check is restricted to. -/
inductive Restriction where
  | everything
  | changes (target : DiffTarget)
  | pullRequest (pr : PullRequest)
deriving DecidableEq, Repr

/-- What a check is asked to do. -/
structure CheckRequest where
  paths : List String := ["."]
  format : ReportFormat := .text
  /-- The file that the report goes to. -/
  output : Option String := none
  restriction : Restriction := .everything
  /-- Check everything if the restriction cannot be computed. -/
  fallbackFull : Bool := false
  exclude : List String := []
  failOnWarnings : Bool := false
deriving DecidableEq, Repr

inductive Request where
  | check (r : CheckRequest)
  | listRules
  | init (force withDefaults : Bool)
deriving DecidableEq, Repr

/-- A run that the arguments ask for. -/
structure Invocation where
  verbose : Bool
  /-- The configuration file that the arguments name. -/
  config : Option String
  request : Request
deriving DecidableEq, Repr

namespace Reading

def has (r : Reading) (s : Switch) : Bool :=
  r.given.any (·.1 = s)

def value? (r : Reading) (s : Switch) : Option String :=
  (r.given.find? (·.1 = s)).map (·.2)

/-- The restriction of a check; at most one of its switches may be given. -/
def restriction (r : Reading) : Except Halt Restriction :=
  match r.value? .diff, r.has .staged, (r.value? .pr).bind PullRequest.read? with
  | none, false, none => .ok .everything
  | some name, false, none => .ok (.changes (.ref name))
  | none, true, none => .ok (.changes .staged)
  | none, false, some pr => .ok (.pullRequest pr)
  | _, _, _ => .error .usage

def checkRequest (r : Reading) : Except Halt CheckRequest := do
  return {
    paths := if r.paths.isEmpty then ["."] else r.paths
    format := ((r.value? .format).bind ReportFormat.ofName?).getD .text
    output := r.value? .output
    restriction := ← r.restriction
    fallbackFull := r.has .fallbackFull
    exclude := (r.given.filter (·.1 = .exclude)).map (·.2)
    failOnWarnings := r.has .failOnWarnings }

def request (r : Reading) : Except Halt Request :=
  match r.action with
  | some .check => r.checkRequest.map .check
  | some .listRules => .ok .listRules
  | some .init => .ok (.init (r.has .force) (r.has .withDefaults))
  | none => .error (if r.given.isEmpty then .nothing else .usage)

end Reading

/-- The run that the arguments ask for. Switches of every command may stand before and after it, and
those after it count first. -/
def Invocation.ofArguments (arguments : List String) : Except Halt Invocation := do
  let r ← readArguments {} arguments
  let outer : Reading := { given := r.outer }
  return {
    verbose := r.has .verbose || outer.has .verbose
    config := (r.value? .config).or (outer.value? .config)
    request := ← r.request }

end Guideline.Command
