import Guideline.Text.Affix
import Guideline.Text.Utf8

/-!
# File trees

All files and directories, by the names that lead to them from the root, and the directory that a
program works in. A path is followed name by name, from the root if it is absolute and from the working
directory if not, and everything before its last name must be a directory.
-/

namespace Guideline

/-- What stands at a place of a file tree. -/
inductive FileEntry where
  | file (bytes : List UInt8)
  | directory
deriving DecidableEq, Repr

/-- Why a path cannot be used. -/
inductive FileError where
  | notFound
  | notDirectory
  | isDirectory
  /-- A file was read as text and is none. -/
  | notText
deriving DecidableEq, Repr

def FileError.message : FileError → String
  | .notFound => "No such file or directory (os error 2)"
  | .notDirectory => "Not a directory (os error 20)"
  | .isDirectory => "Is a directory (os error 21)"
  | .notText => "stream did not contain valid UTF-8"

/-- Files and directories, with the directories that lead to them. The root itself is not listed. -/
structure FileTree where
  entries : List (List String × FileEntry)
  /-- The place of the working directory. -/
  home : List String := []
deriving DecidableEq, Repr

namespace FileTree

/-- Nothing but the root, which is the working directory. -/
def empty : FileTree := { entries := [] }

/-- What stands at the place that the names lead to. -/
def find? (t : FileTree) (names : List String) : Option FileEntry :=
  if names.isEmpty then some .directory
  else (t.entries.find? fun (n, _) => n = names).map (·.2)

/-- Sets what stands at a place, in the place of what was there. -/
def set (t : FileTree) (names : List String) (entry : FileEntry) : FileTree :=
  if t.entries.any fun (n, _) => n = names then
    { t with entries := t.entries.map fun (n, e) => if n = names then (n, entry) else (n, e) }
  else { t with entries := t.entries ++ [(names, entry)] }

/-- Adds the directory at a place and all those that lead to it, where nothing stands. -/
def addDirectory (t : FileTree) (names : List String) : FileTree :=
  (List.range names.length).foldl (fun t n =>
    let here := names.take (n + 1)
    if (t.find? here).isSome then t else t.set here .directory) t

/-- Adds a file, and the directories that lead to it. -/
def addFile (t : FileTree) (names : List String) (bytes : List UInt8) : FileTree :=
  (t.addDirectory names.dropLast).set names (.file bytes)

/-- Where a path starts. -/
def start (t : FileTree) (path : String) : List String :=
  if path.toList.head? = some '/' then [] else t.home

/-- The place that a piece of a path leads to from a directory. The root is its own parent. -/
def step (here : List String) (piece : List Char) : List String :=
  if piece.isEmpty || piece = ['.'] then here
  else if piece = ['.', '.'] then here.dropLast
  else here ++ [String.ofList piece]

/-- One step of a path, from a place that must be a directory. -/
def follow (t : FileTree) (here : List String) (piece : List Char) :
    Except FileError (List String) :=
  match t.find? here with
  | none => .error .notFound
  | some (.file _) => .error .notDirectory
  | some .directory => .ok (step here piece)

/-- The place that a path leads to; nothing need stand there. -/
def place (t : FileTree) (path : String) : Except FileError (List String) :=
  if path.isEmpty then .error .notFound
  else (Text.splitAtChar '/' path.toList).foldlM t.follow (t.start path)

/-- What stands at a path. -/
def get (t : FileTree) (path : String) : Except FileError FileEntry := do
  match t.find? (← t.place path) with
  | some entry => return entry
  | none => throw .notFound

/-- Something stands at a path. -/
def isPresent (t : FileTree) (path : String) : Bool :=
  match t.get path with
  | .ok _ => true
  | .error _ => false

/-- A file stands at a path. -/
def isFile (t : FileTree) (path : String) : Bool :=
  match t.get path with
  | .ok (.file _) => true
  | _ => false

/-- The bytes of the file at a path. -/
def readBytes (t : FileTree) (path : String) : Except FileError (List UInt8) := do
  match ← t.get path with
  | .file bytes => return bytes
  | .directory => throw .isDirectory

/-- The text of the file at a path. -/
def readText (t : FileTree) (path : String) : Except FileError (List Char) := do
  match Text.decode? (← t.readBytes path) with
  | some cs => return cs
  | none => throw .notText

/-- The place of the file that writing to a path makes. The path must end in a name. -/
def targetPlace (t : FileTree) (path : String) : Except FileError (List String) := do
  if path.isEmpty then throw .notFound
  let pieces := Text.splitAtChar '/' path.toList
  let named := (pieces.reverse.dropWhile List.isEmpty).reverse
  let parent ← named.dropLast.foldlM t.follow (t.start path)
  let last := named.getLast?.getD []
  let names ← t.follow parent last
  if named.length < pieces.length || last = ['.'] || last = ['.', '.'] then throw .isDirectory
  return names

/-- Writes a text to the file at a path. -/
def writeText (t : FileTree) (path : String) (cs : List Char) : Except FileError FileTree := do
  let names ← t.targetPlace path
  match t.find? names with
  | some .directory => throw .isDirectory
  | _ => return t.set names (.file (Text.encode cs))

end FileTree

end Guideline
