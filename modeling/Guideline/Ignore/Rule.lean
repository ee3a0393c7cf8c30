import Guideline.Ignore.Glob
import Guideline.Text.Affix
import Guideline.Text.Blank

/-!
# Rules of ignore files

Each line of an ignore file is a rule on paths below the file's directory: a glob of paths to
ignore, or after a `!` of paths to keep. The last rule that matches a path decides.
-/

namespace Guideline.Ignore

/-- What an ignore file says about a path. -/
inductive Verdict where
  | ignore
  | keep
deriving DecidableEq, Repr

/-- One line of an ignore file. -/
structure Rule where
  verdict : Verdict
  /-- The rule is about directories only. -/
  directoriesOnly : Bool
  choices : Choices
deriving DecidableEq, Repr

/-- The parts of a line: the verdict, whether its glob starts at the file's directory, and the
glob. A backslash takes the meaning from a leading `!` or `#`. -/
def readVerdict (line : List Char) : Verdict × Bool × List Char :=
  match line with
  | '\\' :: '!' :: rest => (.ignore, false, '!' :: rest)
  | '\\' :: '#' :: rest => (.ignore, false, '#' :: rest)
  | '!' :: '/' :: rest => (.keep, true, rest)
  | '!' :: rest => (.keep, false, rest)
  | '/' :: rest => (.ignore, true, rest)
  | _ => (.ignore, false, line)

/-- Takes off a trailing `/`, which restricts a rule to directories, with a backslash before it. -/
def readDirectoryMark (cs : List Char) : Bool × List Char :=
  match cs.reverse with
  | '/' :: '\\' :: rest => (true, rest.reverse)
  | '/' :: rest => (true, rest.reverse)
  | _ => (false, cs)

/-- The glob on whole paths for that of a line: one without a `/` is for every directory below, and
everything below a directory does not include the directory. -/
def pathGlob (anchored : Bool) (cs : List Char) : List Char :=
  let glob :=
    if !anchored && !cs.contains '/' && cs != ['*', '*'] then ['*', '*', '/'] ++ cs else cs
  if Text.startsWith ['*', '*', '/'] glob.reverse then glob ++ ['/', '*'] else glob

/-- The part of a line that counts: blanks at its end do not, unless the last one follows a
backslash. -/
def ruleText (line : List Char) : List Char :=
  if Text.startsWith [' ', '\\'] line.reverse then line else Text.trimEnd line

/-- The rule of a line; comments and blank lines have none. -/
def readRule (line : List Char) : Except GlobFault (Option Rule) :=
  let text := ruleText line
  if line.head? = some '#' || text.isEmpty then .ok none
  else
    let (verdict, anchored, glob) := readVerdict text
    let (directoriesOnly, glob) := readDirectoryMark glob
    (readGlob true none {} [] (pathGlob anchored glob)).map fun choices =>
      some { verdict, directoriesOnly, choices }

/-- The rule says something about a path. -/
def Rule.applies (r : Rule) (path : List UInt8) (isDirectory : Bool) : Bool :=
  (isDirectory || !r.directoriesOnly) && choicesMatch r.choices path

/-- What the rules of a file say about a path below the file's directory. -/
def verdict? (rules : List Rule) (path : List UInt8) (isDirectory : Bool) : Option Verdict :=
  (rules.reverse.find? (·.applies path isDirectory)).map (·.verdict)

/-! ### Files -/

/-- The lines of a file as bytes. -/
def byteLines (bytes : List UInt8) : List (List UInt8) :=
  match bytes.splitOn 0x0A |>.reverse with
  | [] => []
  | last :: complete =>
    let ended := complete.map fun line => if line.getLast? = some 0x0D then line.dropLast else line
    ended.reverse ++ if last.isEmpty then [] else [last]

/-- The lines of a file up to the first that is no text. -/
def textLines (bytes : List UInt8) : List (List Char) :=
  ((byteLines bytes).map Text.decode?).takeWhile Option.isSome |>.filterMap id

/-- The lines of an ignore file. Byte order marks at its start do not count. -/
def fileLines (bytes : List UInt8) : List (List Char) :=
  match textLines bytes with
  | [] => []
  | first :: rest => first.dropWhile (· = '\ufeff') :: rest

/-- The rules of a file; lines with a fault have none. -/
def rulesOf (bytes : List UInt8) : List Rule :=
  (fileLines bytes).filterMap fun line =>
    match readRule line with
    | .ok rule => rule
    | .error _ => none

/-- A line that is no rule: where it stands, and what is wrong with it. -/
structure LineFault where
  line : Nat
  text : List Char
  fault : GlobFault
deriving DecidableEq, Repr

def LineFault.message (f : LineFault) : String :=
  let text := String.ofList f.text
  s!"line {f.line}: error parsing glob '{text}': {f.fault.message}"

/-- The first line of a file that is no rule. -/
def firstFault? (bytes : List UInt8) : Option LineFault :=
  (fileLines bytes).zipIdx.findSome? fun (line, n) =>
    match readRule line with
    | .ok _ => none
    | .error fault => some ⟨n + 1, ruleText line, fault⟩

end Guideline.Ignore
