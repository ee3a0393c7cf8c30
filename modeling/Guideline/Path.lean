import Guideline.Text.Affix

/-!
# Paths

A path is a text with `/` between its components. Two paths are the same if they have the same
components: repeated and trailing separators do not count, nor does a `.` after the first place.
-/

namespace Guideline.Path

inductive Component where
  /-- The leading `/` of an absolute path. -/
  | root
  /-- A leading `.`. -/
  | current
  /-- A `..`. -/
  | parent
  | normal (name : String)
deriving DecidableEq, Repr

namespace Component

/-- The order of components of different kinds. -/
def rank : Component → Nat
  | .root => 0
  | .current => 1
  | .parent => 2
  | .normal _ => 3

/-- Components of different kinds go by rank, names by their characters. -/
def cmp : Component → Component → Ordering
  | .normal a, .normal b => compare a b
  | a, b => compare a.rank b.rank

def text : Component → String
  | .root => "/"
  | .current => "."
  | .parent => ".."
  | .normal name => name

end Component

/-- The component of a piece between separators, if it counts. -/
def component? (isFirst : Bool) (piece : List Char) : Option Component :=
  if piece.isEmpty then none
  else if piece = ['.'] then if isFirst then some .current else none
  else if piece = ['.', '.'] then some .parent
  else some (.normal (String.ofList piece))

/-- The components of a path. -/
def components (path : String) : List Component :=
  match Text.splitAtChar '/' path.toList with
  | [] => []
  | first :: rest =>
    let start := if path.toList.head? = some '/' then [.root] else (component? true first).toList
    start ++ rest.filterMap (component? false)

/-- The path with the given components. -/
def ofComponents : List Component → String
  | .root :: rest => "/" ++ "/".intercalate (rest.map Component.text)
  | cs => "/".intercalate (cs.map Component.text)

/-- Compares paths component by component. -/
def cmpComponents : List Component → List Component → Ordering
  | [], [] => .eq
  | [], _ :: _ => .lt
  | _ :: _, [] => .gt
  | a :: as, b :: bs => (a.cmp b).then (cmpComponents as bs)

def cmp (a b : String) : Ordering :=
  cmpComponents (components a) (components b)

/-- The components without a leading `.`. -/
def normalComponents (path : String) : List Component :=
  (components path).filter (· ≠ .current)

/-- The path without `.` components, so that spellings of one path compare equal. -/
def normalize (path : String) : String :=
  ofComponents (normalComponents path)

/-- The path as reports show it: `/` between components, and no leading `./`. -/
def display (path : String) : String :=
  let shown := path.toList.map fun c => if c = '\\' then '/' else c
  String.ofList ((Text.after? ['.', '/'] shown).getD shown)

/-- The last component, if it is a name. -/
def fileName? (path : String) : Option String :=
  match (components path).getLast? with
  | some (.normal name) => some name
  | _ => none

/-- The part of a file's name after its last point; a leading point starts no extension. -/
def extension? (path : String) : Option String :=
  (fileName? path).bind fun name =>
    let backwards := name.toList.reverse
    match backwards.dropWhile (· ≠ '.') with
    | [] | ['.'] => none
    | _ => some (String.ofList (backwards.takeWhile (· ≠ '.')).reverse)

/-- The components of `root` start those of `path`. -/
def isUnder (root path : List Component) : Bool :=
  root.isPrefixOf path

/-- A path below a directory. -/
def join (dir name : String) : String :=
  if name.toList.head? = some '/' || dir.isEmpty then name
  else if dir.toList.getLast? = some '/' then dir ++ name
  else dir ++ "/" ++ name

end Guideline.Path
