import Guideline.Document.Toml.Token
import Guideline.Document.Toml.Tree

/-!
# TOML documents

A document is read token by token. Within a line the reader is at a key, a header or a value; lists
and tables in braces that are still open stand on a stack.
-/

namespace Guideline.Document.Toml

/-- A piece of a key: a name, or a point between names. -/
inductive KeyPiece where
  | name (s : String)
  | point
deriving DecidableEq, Repr

/-- The pieces of a word of a key. -/
def wordPieces : List (List Char) → List KeyPiece
  | [] => []
  | [name] => if name.isEmpty then [] else [.name (String.ofList name)]
  | name :: rest =>
    (if name.isEmpty then [] else [.name (String.ofList name)]) ++ .point :: wordPieces rest

/-- The pieces of a token of a key. -/
def keyPieces? : Token → Option (List KeyPiece)
  | .text s true => some [.name s]
  | .word cs =>
    if cs.all fun c => isBareChar c || c = '.' then some (wordPieces (Text.splitAtChar '.' cs))
    else none
  | .blank => some []
  | _ => none

/-- The names of a key, with points between them. -/
def keyNames? : List KeyPiece → Option (List String)
  | [.name s] => some [s]
  | .name s :: .point :: rest => (keyNames? rest).map (s :: ·)
  | _ => none

/-- The number of nested lists and tables, and of names in a key, must be below this limit. -/
def depthLimit : Nat := 80

/-- The key of a sequence of tokens. -/
def key? (tokens : List Token) : Option (List String) := do
  let names ← keyNames? (← tokens.mapM keyPieces?).flatten
  if names.length < depthLimit then some names else none

/-- A list or table in braces that is still open; the newest items come first. -/
inductive Frame where
  | list (items : List Value)
  | table (entries : Entries) (key : List String)

/-- Where in a line the reader is. Tokens of keys are kept with the newest first. -/
inductive Place where
  /-- In the key of a line, or before it. -/
  | line (key : List Token)
  /-- After the bracket that starts a header. -/
  | bracket
  /-- In the key of a header. -/
  | header (isList : Bool) (key : List Token)
  /-- After the first closing bracket of a header with double brackets. -/
  | closing (key : List Token)
  /-- Before a value; the list on top may also close if `mayClose`. -/
  | value (key : List String) (stack : List Frame) (mayClose : Bool)
  /-- After a value of a list or a table in braces. -/
  | more (key : List String) (top : Frame) (stack : List Frame)
  /-- In a key of a table in braces, which may also close if `mayClose`. -/
  | inner (key : List String) (stack : List Frame) (entries : Entries) (names : List Token)
    (mayClose : Bool)
  /-- After the value of a line, or after a header. -/
  | rest

structure State where
  root : Entries
  /-- The path of the table that lines go into. -/
  path : List String
  place : Place

def State.at (s : State) (place : Place) : Option State :=
  some { s with place }

/-- A value is complete. -/
def State.complete (s : State) (key : List String) (v : Value) : List Frame → Option State
  | [] => do
    let root ← descend .implied (fun _ entries => assign key v entries) s.path .header s.root
    return { s with root, place := .rest }
  | .list items :: stack => s.at (.more key (.list (v :: items)) stack)
  | .table entries name :: stack => do
    let entries ← assign name v entries
    s.at (.more key (.table entries []) stack)

/-- A header is complete. -/
def State.openTable (s : State) (isList : Bool) (tokens : List Token) : Option State := do
  let key ← key? tokens.reverse
  let root ← openHeader isList key s.root
  return { root, path := key, place := .rest }

/-- Opens a list or a table in braces. -/
def State.push (s : State) (key : List String) (stack : List Frame) (isList : Bool) :
    Option State :=
  if stack.length + 1 < depthLimit then
    s.at (if isList then .value key (.list [] :: stack) true else .inner key stack [] [] true)
  else none

/-- A token before a value. -/
def State.atValue (s : State) (key : List String) (stack : List Frame) (mayClose : Bool) :
    Token → Option State
  | .blank => some s
  | .newline =>
    match stack with
    | .list _ :: _ => some s
    | _ => none
  | .text t _ => s.complete key (.text t) stack
  | .word cs => (wordValue? cs).bind fun v => s.complete key v stack
  | .mark c =>
    if c = '[' then s.push key stack true
    else if c = '\x7b' then s.push key stack false
    else
      match stack with
      | .list items :: stack =>
        if mayClose && c = ']' then s.complete key (.list items.reverse) stack else none
      | _ => none

/-- A token after a value of a list or a table in braces. -/
def State.atMore (s : State) (key : List String) (stack : List Frame) : Frame → Token → Option State
  | _, .blank => some s
  | .list _, .newline => some s
  | .list items, .mark c =>
    if c = ',' then s.at (.value key (.list items :: stack) true)
    else if c = ']' then s.complete key (.list items.reverse) stack
    else none
  | .table entries _, .mark c =>
    if c = ',' then s.at (.inner key stack entries [] false)
    else if c = '\x7d' then s.complete key (.table (entriesValue entries)) stack
    else none
  | _, _ => none

def step (s : State) (t : Token) : Option State :=
  match s.place, t with
  | .line key, .newline => if key.all (· = .blank) then s.at (.line []) else none
  | .line key, .mark '=' => do s.at (.value (← key? key.reverse) [] false)
  | .line key, .mark '[' => if key.all (· = .blank) then s.at .bracket else none
  | .line _, .mark _ => none
  | .line key, t => s.at (.line (t :: key))
  | .bracket, .mark '[' => s.at (.header true [])
  | .bracket, .mark ']' => none
  | .bracket, t => s.at (.header false [t])
  | .header false key, .mark ']' => s.openTable false key
  | .header true key, .mark ']' => s.at (.closing key)
  | .header isList key, t => s.at (.header isList (t :: key))
  | .closing key, .mark ']' => s.openTable true key
  | .closing _, _ => none
  | .value key stack mayClose, t => s.atValue key stack mayClose t
  | .more key top stack, t => s.atMore key stack top t
  | .inner key stack entries names mayClose, .mark '\x7d' =>
    if mayClose && names.all (· = .blank) then s.complete key (.table (entriesValue entries)) stack
    else none
  | .inner key stack entries names _, .mark '=' => do
    s.at (.value key (.table entries (← key? names.reverse) :: stack) false)
  | .inner key stack entries names mayClose, t =>
    s.at (.inner key stack entries (t :: names) mayClose)
  | .rest, .blank => some s
  | .rest, .newline => s.at (.line [])
  | .rest, _ => none

/-- Reads a TOML text, which may start with a byte order mark. -/
def read? (cs : List Char) : Option Value := do
  let cs := match cs with
    | '\ufeff' :: rest => rest
    | _ => cs
  let s ← (← tokens? cs).foldlM step { root := [], path := [], place := .line [] }
  match s.place with
  | .rest => some (.table (entriesValue s.root))
  | .line key => if key.all (· = .blank) then some (.table (entriesValue s.root)) else none
  | _ => none

end Guideline.Document.Toml
