import Guideline.Collection.Sorted
import Guideline.Text.Digit

/-!
# Document values

Rule documents come in two formats with one shape of values. Records are read from values by field
name; a list stands for a record too, with the fields in their fixed order. A value that does not
fit what is read from it gives nothing: documents are taken whole or not at all.
-/

namespace Guideline.Document

inductive Format where
  | toml
  | json
deriving DecidableEq, Repr

inductive Value where
  /-- A value that is explicitly left out. -/
  | null
  | bool (b : Bool)
  /-- A whole number from zero. -/
  | count (n : Nat)
  | text (s : String)
  /-- A value that no record can hold: another number, a date, a text with half a character. -/
  | other
  | list (items : List Value)
  /-- Keys with their values in written order; a key may repeat. -/
  | table (entries : List (String × Value))
deriving Inhabited, Repr

namespace Value

def text? : Value → Option String
  | .text s => some s
  | _ => none

def bool? : Value → Option Bool
  | .bool b => some b
  | _ => none

/-- A number that a 64-bit count can hold. -/
def count? : Value → Option Nat
  | .count n => if n ≤ Text.maxCount then some n else none
  | _ => none

/-- The items of a list, each read by `read?`. -/
def list? {α : Type} (read? : Value → Option α) : Value → Option (List α)
  | .list items => items.mapM read?
  | _ => none

/-- The entries of a table by key, each value read by `read?`; the last of equal keys counts. -/
def map? {α : Type} (read? : Value → Option α) : Value → Option (List (String × α))
  | .table entries => do
    let read ← entries.mapM fun (key, v) => (read? v).map (key, ·)
    return Collection.ofEntries compare read
  | _ => none

/-- The fields of a record with the field names `names`. A table must have no other keys and no
key twice. A list gives the fields in order; a JSON list must not go on after the last field. -/
def record? (format : Format) (names : List String) : Value → Option (List (String × Value))
  | .table entries =>
    let keys := entries.map (·.1)
    if keys.all names.contains && keys.Nodup then some entries else none
  | .list items =>
    if format = .json && names.length < items.length then none else some (names.zip items)
  | _ => none

end Value

/-- A field that must be there. -/
def required {α : Type} (read? : Value → Option α) (name : String)
    (fields : List (String × Value)) : Option α :=
  (Collection.find? name fields).bind read?

/-- A field that may be missing or left out. -/
def optional {α : Type} (read? : Value → Option α) (name : String)
    (fields : List (String × Value)) : Option (Option α) :=
  match Collection.find? name fields with
  | none | some .null => some none
  | some v => (read? v).map some

/-- A field that has the value `default` if it is missing; it cannot be left out explicitly. -/
def withDefault {α : Type} (default : α) (read? : Value → Option α) (name : String)
    (fields : List (String × Value)) : Option α :=
  match Collection.find? name fields with
  | none => some default
  | some v => read? v

end Guideline.Document
