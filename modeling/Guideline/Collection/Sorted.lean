/-!
# Sorted maps and sets

Maps and sets whose order shows in answers are lists sorted by their keys, without two equal keys.
-/

namespace Guideline.Collection

variable {κ α : Type}

/-- Changes the value at `key`, keeping the key already there, or adds it in order. -/
def alter (cmp : κ → κ → Ordering) (key : κ) (f : Option α → α) : List (κ × α) → List (κ × α)
  | [] => [(key, f none)]
  | (k, a) :: rest =>
    match cmp key k with
    | .lt => (key, f none) :: (k, a) :: rest
    | .eq => (k, f (some a)) :: rest
    | .gt => (k, a) :: alter cmp key f rest

/-- Sets the value at `key`. -/
def put (cmp : κ → κ → Ordering) (key : κ) (value : α) (entries : List (κ × α)) : List (κ × α) :=
  alter cmp key (fun _ => value) entries

/-- The map of the entries of a list, where a later entry replaces an earlier one of equal key. -/
def ofEntries (cmp : κ → κ → Ordering) (entries : List (κ × α)) : List (κ × α) :=
  entries.foldl (fun m (k, a) => put cmp k a m) []

/-- The value at `key`. -/
def find? [DecidableEq κ] (key : κ) (entries : List (κ × α)) : Option α :=
  (entries.find? fun (k, _) => k = key).map (·.2)

/-- Adds a number to a set of numbers. -/
def insertNat (n : Nat) : List Nat → List Nat
  | [] => [n]
  | m :: rest =>
    if n < m then n :: m :: rest else if n = m then m :: rest else m :: insertNat n rest

/-- The set of the numbers of a list. -/
def natSet (ns : List Nat) : List Nat :=
  ns.foldl (fun s n => insertNat n s) []

end Guideline.Collection
