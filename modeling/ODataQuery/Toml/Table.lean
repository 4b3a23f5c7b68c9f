import ODataQuery.Toml.Basic

/-! Tables of a TOML document while they are put together, and who may add to which of them. -/
namespace ODataQuery.Toml

/-- How a table came to be. -/
inductive Origin
  /-- By a header of its own. -/
  | header
  /-- By a header of a table inside it. -/
  | inner
  /-- By a dotted key. -/
  | dotted
  deriving DecidableEq

inductive Node
  | value (v : Toml)
  | table (origin : Origin) (entries : List (String × Node))
  /-- Tables that share one header, last one first. -/
  | tables (items : List (List (String × Node)))

abbrev Entries := List (String × Node)

namespace Node

mutual

def toToml : Node → Toml
  | value v => v
  | table _ entries => .table (entriesToToml entries)
  | tables items => .array (itemsToToml items).reverse

def entriesToToml : List (String × Node) → List (String × Toml)
  | [] => []
  | (key, node) :: rest => (key, node.toToml) :: entriesToToml rest

def itemsToToml : List (List (String × Node)) → List Toml
  | [] => []
  | entries :: rest => .table (entriesToToml entries) :: itemsToToml rest

end

end Node

namespace Entries

def set (key : String) (node : Node) : Entries → Entries
  | [] => [(key, node)]
  | (k, n) :: rest => if k = key then (k, node) :: rest else (k, n) :: set key node rest

/-- Changes the table at a path; tables on the way are made if they are missing. Of tables that share a
header the last one is meant. -/
def update (change : Entries → Option Entries) : List String → Entries → Option Entries
  | [], entries => change entries
  | key :: path, entries =>
    match entries.lookup key with
    | none => do some (set key (.table .inner (← update change path [])) entries)
    | some (.table origin inner) => do
      some (set key (.table origin (← update change path inner)) entries)
    | some (.tables (last :: before)) => do
      some (set key (.tables ((← update change path last) :: before)) entries)
    | some _ => none

/-- Adds a value under a dotted key. The tables on the way must not have a header of their own, and
the one that takes the value must have come to be by a dotted key. -/
def put (v : Toml) : List String → Entries → Option Entries
  | [], _ => none
  | [key], entries => if (entries.lookup key).isSome then none else some (set key (.value v) entries)
  | key :: path, entries =>
    match entries.lookup key with
    | none => do some (set key (.table .dotted (← put v path [])) entries)
    | some (.table origin inner) =>
      if origin = .header ∨ (path.length = 1 ∧ origin ≠ .dotted) then none
      else do some (set key (.table origin (← put v path inner)) entries)
    | some (.tables (last :: before)) =>
      if path.length = 1 then none
      else do some (set key (.tables ((← put v path last) :: before)) entries)
    | some _ => none

/-- Opens a table under a header. Only a table that is known by its inner tables alone may be there. -/
def openTable (key : String) (entries : Entries) : Option Entries :=
  match entries.lookup key with
  | none => some (set key (.table .header []) entries)
  | some (.table .inner inner) => some (set key (.table .header inner) entries)
  | some _ => none

def openNext (key : String) (entries : Entries) : Option Entries :=
  match entries.lookup key with
  | none => some (set key (.tables [[]]) entries)
  | some (.tables items) => some (set key (.tables ([] :: items)) entries)
  | some _ => none

/-- The table that a list of dotted keys and values makes. -/
def ofPairs? (pairs : List (List String × Toml)) : Option Entries :=
  pairs.foldlM (fun entries p => put p.2 p.1 entries) []

end Entries

end ODataQuery.Toml
