import Guideline.Command.Run

/-!
# The program

The outer layer: it reads the files that a run may look at, runs the program on them, and writes what
has changed. No other program is started from here, so runs find no version-control program.
-/

namespace Guideline

/-- The path of a place. -/
def pathOf (names : List String) : String :=
  "/" ++ "/".intercalate names

/-- The places that the pieces of a path come to, if there are directories all the way. -/
def placesFrom (here : List String) : List (List Char) → List (List String)
  | [] => [here]
  | piece :: rest => here :: placesFrom (FileTree.step here piece) rest

def placesOf (tree : FileTree) (path : String) : List (List String) :=
  placesFrom (tree.start path) (Text.splitAtChar '/' path.toList)

/-- The place that a path leads to. -/
def placeOf (tree : FileTree) (path : String) : List String :=
  (placesOf tree path).getLast?.getD []

/-- Adds what stands at a place, and at the places that lead to it. -/
def addPlace (tree : FileTree) (names : List String) : IO FileTree := do
  let root := (← IO.currentDir) / "/"
  (List.range names.length).foldlM (fun tree n => do
    let here := names.take (n + 1)
    if (tree.find? here).isSome then return tree
    if ← (root / pathOf here).isDir then return tree.set here .directory
    try
      return tree.set here (.file (← IO.FS.readBinFile (pathOf here)).toList)
    catch _ =>
      return tree) tree

/-- Adds what stands at a path, and wherever the path comes through. -/
def addPath (tree : FileTree) (path : String) : IO FileTree :=
  (placesOf tree path).foldlM addPlace tree

/-- Adds a directory entry, and everything below it. -/
partial def addEntry (dir : List String) (tree : FileTree) (entry : IO.FS.DirEntry) :
    IO FileTree := do
  let names := dir ++ [entry.fileName]
  if ← entry.path.isDir then
    (← entry.path.readDir).foldlM (addEntry names) (tree.addDirectory names)
  else
    addPlace tree names

/-- Adds what a walk from a path may come to: everything below it, and the ignore files above it. -/
def addWalk (tree : FileTree) (path : String) : IO FileTree := do
  let names := placeOf tree path
  let above := (List.range names.length).flatMap fun n => Ignore.filePlaces.map (names.take n ++ ·)
  let tree ← above.foldlM addPlace (← addPath tree path)
  let root := (← IO.currentDir) / pathOf names
  if ← root.isDir then (← root.readDir).foldlM (addEntry names) tree else return tree

/-- The path of the user's own configuration file. -/
def userConfigPath : IO (Option String) := do
  let dir? ← match ← IO.getEnv "GUIDELINT_CONFIG_DIR" with
    | some dir => pure (some dir)
    | none => pure ((← IO.getEnv "HOME").map (Path.join · ".guidelint"))
  return dir?.map (Path.join · "config.toml")

/-- The paths that a run walks, and the others that it may read or write. -/
def pathsOf (arguments : List String) : List String × List String :=
  match Command.Invocation.ofArguments arguments with
  | .error _ => ([], [])
  | .ok i =>
    match i.request with
    | .check r => (r.paths, i.config.toList ++ r.output.toList)
    | _ => ([], i.config.toList)

/-- The files that a run may look at. -/
def readTree (arguments : List String) (userConfig : Option String) : IO FileTree := do
  let home := (← IO.currentDir).toString
  let tree : FileTree := { entries := [], home := placeOf .empty home }
  let (walked, others) := pathsOf arguments
  let others := home :: Command.projectFiles ++ userConfig.toList ++ others
  let tree ← others.foldlM addPath tree
  walked.foldlM addWalk tree

/-- Writes the files of a tree that differ from those before. -/
def writeChanges (before after : FileTree) : IO Unit :=
  after.entries.forM fun (names, entry) => do
    match entry with
    | .file bytes =>
      unless before.find? names = some entry do
        IO.FS.writeBinFile (pathOf names) ⟨bytes.toArray⟩
    | .directory => pure ()

/-- What goes to the error output. -/
def errorText : Command.Failure → String
  | .usage => "error: invalid arguments\n\nFor more information, try '--help'.\n"
  | .config cause => s!"  × {cause.message}\n"
  | f => s!"Error: {f.message}\n"

end Guideline

open Guideline in
def main (arguments : List String) : IO UInt32 := do
  let userConfig ← userConfigPath
  let tree ← readTree arguments userConfig
  let outcome := Command.run arguments { tree, userConfig }
  IO.print outcome.stdout
  if let some failure := outcome.failure then IO.eprint (errorText failure)
  else if outcome.exit = 2 then IO.eprint Command.programHelp
  writeChanges tree outcome.tree
  return outcome.exit.toUInt32
