import Guideline.Document.Json.Token

/-!
# JSON documents

Values are put together from tokens with a stack of the lists and tables that are still open.
-/

namespace Guideline.Document.Json

/-- A list or table that is still open; the newest items and entries come first. A key is `none` if
it has half a character. -/
inductive Frame where
  | list (items : List Value)
  | table (entries : List (Option String × Value)) (key : Option String)

/-- What has to come next. -/
inductive State where
  /-- A value; the list on top may also close if `mayClose`. -/
  | value (stack : List Frame) (mayClose : Bool)
  /-- A key; the table may also close if `mayClose`. -/
  | key (stack : List Frame) (entries : List (Option String × Value)) (mayClose : Bool)
  | colon (stack : List Frame) (entries : List (Option String × Value)) (key : Option String)
  /-- A comma, or the end of the list or table on top. -/
  | more (top : Frame) (stack : List Frame)
  /-- Nothing. -/
  | done (v : Value)

/-- The table of entries, newest first. With half a character in a key it fits no record. -/
def tableOf (entries : List (Option String × Value)) : Value :=
  match entries.reverse.mapM fun (key, v) => key.map (·, v) with
  | some entries => .table entries
  | none => .other

/-- A value is complete. -/
def complete (v : Value) : List Frame → State
  | [] => .done v
  | .list items :: stack => .more (.list (v :: items)) stack
  | .table entries key :: stack => .more (.table ((key, v) :: entries) none) stack

def textValue : Option String → Value
  | some s => .text s
  | none => .other

def step : State → Token → Option State
  | .value stack _, .openTable => some (.key stack [] true)
  | .value stack _, .openList => some (.value (.list [] :: stack) true)
  | .value stack _, .text s => some (complete (textValue s) stack)
  | .value stack _, .plain v => some (complete v stack)
  | .value (.list items :: stack) true, .closeList => some (complete (.list items.reverse) stack)
  | .key stack entries _, .text key => some (.colon stack entries key)
  | .key stack entries true, .closeTable => some (complete (tableOf entries) stack)
  | .colon stack entries key, .colon => some (.value (.table entries key :: stack) false)
  | .more (.list items) stack, .comma => some (.value (.list items :: stack) false)
  | .more (.list items) stack, .closeList => some (complete (.list items.reverse) stack)
  | .more (.table entries _) stack, .comma => some (.key stack entries false)
  | .more (.table entries _) stack, .closeTable => some (complete (tableOf entries) stack)
  | _, _ => none

/-- Reads a JSON text. -/
def read? (cs : List Char) : Option Value := do
  match (← tokens? cs).foldlM step (.value [] false) with
  | some (.done v) => some v
  | _ => none

end Guideline.Document.Json
