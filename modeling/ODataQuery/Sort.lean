import ODataQuery.Json.Shape
import ODataQuery.Path
import ODataQuery.Filter.Error

/-! Sort keys: the order clause that a list of them makes, and how they are read from text. -/
namespace ODataQuery

/-- One key of a sort order; keys of a lower index come first. -/
structure SortKey where
  field : String
  index : Nat
  descending : Bool
  deriving DecidableEq

namespace SortKey

def text (resolver : Option Resolver) (k : SortKey) : String :=
  let path := Path.effective (Text.trim k.field) none resolver
  if k.descending then path ++ " desc" else path

/-- The keys that name a field, in order of their indexes; equal indexes keep their order. -/
def ordered (keys : List SortKey) : List SortKey :=
  (keys.filter fun k => !Text.isBlankText k.field).mergeSort fun a b => decide (a.index ≤ b.index)

def compile (resolver : Option Resolver) (keys : List SortKey) : String :=
  ",".intercalate ((ordered keys).map (text resolver))

/-- Reads a field and perhaps a direction as the key with this index; `none` when the item is
blank. -/
def ofWords (index : Nat) : List String → Except FilterError (Option SortKey)
  | [] => .ok none
  | [field] => .ok (some ⟨field, index, false⟩)
  | field :: direction :: extra =>
    if Text.equalsIgnoringCase direction "asc" ∨ Text.equalsIgnoringCase direction "desc" then
      match extra with
      | [] => .ok (some ⟨field, index, Text.equalsIgnoringCase direction "desc"⟩)
      | word :: _ => .error (.unexpectedToken word)
    else .error (.unexpectedToken direction)

/-- Reads items in order, giving them ascending indexes from `index` on. An index has 32 bits, so that
0 follows on the last one. -/
def ofItems (index : Nat) : List String → Except FilterError (List SortKey)
  | [] => .ok []
  | item :: rest => do
    match ← ofWords index (Text.words item) with
    | none => ofItems index rest
    | some key => return key :: (← ofItems ((index + 1) % 4294967296) rest)

/-- Reads sort keys from texts such as "Name desc, Age". -/
def parse (specs : List String) : Except FilterError (List SortKey) :=
  ofItems 0 (specs.flatMap (Text.split (· = ',')))

def toJson (k : SortKey) : Json :=
  .object
    [("field", .string k.field), ("index", .ofNat k.index), ("descending", .bool k.descending)]

def ofJson? (j : Json) : Option SortKey := do
  match ← j.entries? ["field", "index", "descending"] with
  | [field, index, descending] =>
    some ⟨← field.required Json.asString?, ← index.required (Json.asNat? 4294967295),
      ← descending.required Json.asBool?⟩
  | _ => none

end SortKey

end ODataQuery
