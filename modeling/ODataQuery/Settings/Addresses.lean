import ODataQuery.Json.Basic

/-! Named addresses, in the order of their names. -/
namespace ODataQuery

structure Addresses where
  entries : List (String × String) := []
  deriving DecidableEq

namespace Addresses

/-- Puts an entry before the first greater name; an equal name takes the new address. -/
def insertEntry (name address : String) : List (String × String) → List (String × String)
  | [] => [(name, address)]
  | (n, a) :: rest =>
    if name = n then (name, address) :: rest
    else if name < n then (name, address) :: (n, a) :: rest
    else (n, a) :: insertEntry name address rest

def insert (s : Addresses) (name address : String) : Addresses :=
  ⟨insertEntry name address s.entries⟩

/-- The addresses of a list; the last one of a name counts. -/
def ofList (entries : List (String × String)) : Addresses :=
  entries.foldl (fun s e => s.insert e.1 e.2) {}

def find? (s : Addresses) (name : String) : Option String := s.entries.lookup name

def isEmpty (s : Addresses) : Bool := s.entries.isEmpty

def toJson (s : Addresses) : Json := .object (s.entries.map fun e => (e.1, .string e.2))

def ofJson? : Json → Option Addresses
  | .object members => do
    some (ofList (← members.mapM fun m => do some (m.1, ← m.2.asString?)))
  | _ => none

end Addresses

end ODataQuery
