import ODataQuery.Guid
import ODataQuery.Text.Blank
import ODataQuery.Text.Case

/-! Property paths. A field is compared under the path that its property or a resolver gives it,
unless it names an identifier itself. -/
namespace ODataQuery

/-- The paths of declared fields, found by name without regard to case. -/
structure Resolver where
  entries : List (String × String) := []
  deriving DecidableEq

namespace Resolver

def setEntry (key path : String) : List (String × String) → List (String × String)
  | [] => [(key, path)]
  | (k, p) :: rest => if k = key then (k, path) :: rest else (k, p) :: setEntry key path rest

def insert (r : Resolver) (name path : String) : Resolver :=
  ⟨setEntry (Text.lower name) path r.entries⟩

def ofList (pairs : List (String × String)) : Resolver :=
  pairs.foldl (fun r (name, path) => r.insert name path) {}

def resolve? (r : Resolver) (name : String) : Option String := r.entries.lookup (Text.lower name)

def size (r : Resolver) : Nat := r.entries.length

end Resolver

namespace Path

def segments (path : String) : List String := Text.split (fun c => c = '.' || c = '/') path

def hasGuidSegment (path : String) : Bool := (segments path).any fun s => (Guid.ofText? s).isSome

/-- A property that can be compared in place of its field: not blank, without an identifier in it
and not ending in a segment named id. -/
def isConcrete (property : String) : Bool :=
  !Text.isBlankText property && !hasGuidSegment property &&
    !((segments property).getLast?.any (Text.equalsIgnoringCase · "id"))

/-- The path a field is compared under: a field with an identifier in it stands for itself, else a
concrete property comes first, then the resolver, then the field itself. -/
def effective (field : String) (property : Option String) (resolver : Option Resolver) : String :=
  if hasGuidSegment field then field
  else
    match property.filter isConcrete with
    | some p => p
    | none => (resolver.bind (·.resolve? field)).getD field

end Path

end ODataQuery
