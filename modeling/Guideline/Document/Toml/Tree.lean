import Guideline.Document.Value

/-!
# Tables under construction

The tables of a TOML text grow from headers and from keys with points. What a later line may still
add to a table depends on how the table came about.
-/

namespace Guideline.Document.Toml

/-- How a table came about. -/
inductive Origin where
  /-- By a header of its own; no key of another table goes into it. -/
  | header
  /-- On the way to the table of another header; its own header may still come. -/
  | implied
  /-- By a key with points; no header of its own may come. -/
  | dotted
deriving DecidableEq, Repr

inductive Node where
  /-- A value as written; nothing goes into it. -/
  | leaf (v : Value)
  | table (origin : Origin) (entries : List (String × Node))
  /-- The tables of headers with double brackets; lines go into the last one. -/
  | tables (items : List (List (String × Node)))
deriving Inhabited

abbrev Entries : Type := List (String × Node)

def Entries.find? (key : String) (entries : Entries) : Option Node :=
  (List.find? (fun (k, _) => k = key) entries).map (·.2)

/-- Sets the node at a key, which keeps its place. -/
def Entries.set (key : String) (node : Node) : Entries → Entries
  | [] => [(key, node)]
  | (k, n) :: rest => if k = key then (k, node) :: rest else (k, n) :: set key node rest

/-- Changes the table that `path` leads to by `f`, which is told how that table came about. Tables
that are missing on the way have the origin `missing`; a key with points does not go through the
table of a header. -/
def descend (missing : Origin) (f : Origin → Entries → Option Entries) :
    List String → Origin → Entries → Option Entries
  | [], origin, entries => f origin entries
  | key :: path, _, entries => do
    let changed ← match entries.find? key with
      | none => (descend missing f path missing []).map (.table missing)
      | some (.leaf _) => none
      | some (.table origin sub) =>
        if missing = .dotted && origin = .header then none
        else (descend missing f path origin sub).map (.table origin)
      | some (.tables items) =>
        let last := items.getLast?.getD []
        (descend missing f path .header last).map fun last => .tables (items.dropLast ++ [last])
    return entries.set key changed

/-- Adds a value at a new key, whose points go through tables that such keys made. -/
def assign (key : List String) (v : Value) (entries : Entries) : Option Entries :=
  match key.getLast? with
  | none => none
  | some last =>
    let path := key.dropLast
    descend .dotted (fun origin entries =>
      if (origin == .dotted) == path.isEmpty then none
      else if (entries.find? last).isSome then none
      else some (entries ++ [(last, .leaf v)])) path .header entries

/-- Adds the table of a header, or a further table for a header with double brackets. -/
def openHeader (isList : Bool) (key : List String) (root : Entries) : Option Entries :=
  match key.getLast? with
  | none => none
  | some last =>
    descend .implied (fun _ entries =>
      match entries.find? last, isList with
      | none, false => some (entries ++ [(last, .table .header [])])
      | some (.table .implied sub), false => some (entries.set last (.table .header sub))
      | none, true => some (entries ++ [(last, .tables [[]])])
      | some (.tables items), true => some (entries.set last (.tables (items ++ [[]])))
      | _, _ => none) key.dropLast .header root

mutual
/-- The value of a node. -/
def Node.value : Node → Value
  | .leaf v => v
  | .table _ entries => .table (entriesValue entries)
  | .tables items => .list (itemsValue items)

def entriesValue : List (String × Node) → List (String × Value)
  | [] => []
  | (key, node) :: rest => (key, node.value) :: entriesValue rest

def itemsValue : List (List (String × Node)) → List Value
  | [] => []
  | entries :: rest => .table (entriesValue entries) :: itemsValue rest
end

end Guideline.Document.Toml
