import Guideline.FileTree
import Guideline.Ignore.Rule
import Guideline.Path

/-!
# Walks

A walk finds the files below a path that no ignore file leaves out. Each directory may have ignore
files of three kinds, and those of a directory also speak about everything further down. A nearer
file of a kind overrules a farther one, and a kind overrules the kinds after it.
-/

namespace Guideline.Ignore

/-- The places of the ignore files of a directory, by kind. -/
def filePlaces : List (List String) :=
  [[".ignore"], [".gitignore"], [".git", "info", "exclude"]]

/-- The bytes of an ignore file, if it is there. -/
def bytesAt? (tree : FileTree) (names : List String) : Option (List UInt8) :=
  match tree.find? names with
  | some (.file bytes) => some bytes
  | _ => none

/-- The rules of the ignore file at a place. -/
def rulesAt (tree : FileTree) (names : List String) : List Rule :=
  ((bytesAt? tree names).map rulesOf).getD []

/-- The bytes of a path. -/
def pathBytes (names : List String) : List UInt8 :=
  Text.encode ("/".intercalate names).toList

/-- What the ignore files of one kind say about the entry at a place: the nearest that says anything
decides. -/
def kindVerdict? (tree : FileTree) (names : List String) (isDirectory : Bool)
    (place : List String) : Option Verdict :=
  (List.range names.length).reverse.findSome? fun n =>
    verdict? (rulesAt tree (names.take n ++ place)) (pathBytes (names.drop n)) isDirectory

/-- The entry at a place is ignored. -/
def isIgnored (tree : FileTree) (names : List String) (isDirectory : Bool) : Bool :=
  filePlaces.findSome? (kindVerdict? tree names isDirectory) = some .ignore

/-- A walk that starts at the directory `root` comes to the file at `names`: neither the file nor a
directory on the way is ignored. -/
def isReached (tree : FileTree) (root names : List String) : Bool :=
  (List.range names.length).all fun n =>
    n < root.length || !isIgnored tree (names.take (n + 1)) (n + 1 < names.length)

/-- The files that a walk from the directory at `root` finds. -/
def filesBelow (tree : FileTree) (root : List String) : List (List String) :=
  tree.entries.filterMap fun (names, entry) =>
    match entry with
    | .file _ => if root.isPrefixOf names && isReached tree root names then some names else none
    | .directory => none

/-- Why a walk stops. -/
inductive WalkError where
  /-- Nothing can be reached at the path. -/
  | unreachable (path : String) (cause : FileError)
  /-- An ignore file above the path has a line that is no rule. -/
  | faultyFile (path : String) (cause : LineFault)
deriving DecidableEq, Repr

def WalkError.message : WalkError → String
  | .unreachable path cause => s!"{path}: IO error for operation on {path}: {cause.message}"
  | .faultyFile path cause => s!"{path}: {cause.message}"

/-- The first faulty ignore file of the directories above a place, from the outermost one on. -/
def faultAbove? (tree : FileTree) (names : List String) : Option WalkError :=
  (List.range names.length).findSome? fun n =>
    filePlaces.findSome? fun place =>
      let here := names.take n ++ place
      ((bytesAt? tree here).bind firstFault?).map (.faultyFile ("/" ++ "/".intercalate here))

/-- The files that a walk from a path finds, spelled from that path on. The path itself is never
ignored, and `-` is not walked. -/
def walk (tree : FileTree) (path : String) : Except WalkError (List String) := do
  if path = "-" then return []
  let names ← (tree.place path).mapError (.unreachable path)
  match tree.find? names with
  | none => throw (.unreachable path .notFound)
  | some (.file _) => return [path]
  | some .directory =>
    if let some e := faultAbove? tree names then throw e
    return (filesBelow tree names).map fun found =>
      Path.join path ("/".intercalate (found.drop names.length))

/-- The files that walks from the given paths find, in the order of paths. A file found twice is
listed twice. -/
def discover (tree : FileTree) (paths : List String) : Except WalkError (List String) := do
  let found ← paths.mapM (walk tree)
  return found.flatten.mergeSort fun a b => Path.cmp a b != .gt

end Guideline.Ignore
