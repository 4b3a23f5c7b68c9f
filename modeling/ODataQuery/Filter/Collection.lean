import ODataQuery.Filter.Basic

/-! The filters in use, in order of insertion and found by their identities, with the combinator that
joins them. -/
namespace ODataQuery

structure Collection where
  filters : List Filter := []
  combinator : Combinator := .and
  deriving DecidableEq

namespace Collection

def empty : Collection := {}

/-- Puts a filter in the place of the first one with its identity, else at the end. -/
def put (f : Filter) : List Filter → List Filter
  | [] => [f]
  | g :: rest => if g.id = f.id then f :: rest else g :: put f rest

/-- Adds a filter; one with the same identity is replaced in its place. -/
def add (c : Collection) (f : Filter) : Collection := { c with filters := put f c.filters }

def ofList (filters : List Filter) : Collection := filters.foldl add empty

def get? (c : Collection) (id : Guid) : Option Filter := c.filters.find? (·.id = id)

def modifyFirst (id : Guid) (change : Filter → Filter) : List Filter → List Filter
  | [] => []
  | g :: rest => if g.id = id then change g :: rest else g :: modifyFirst id change rest

/-- Changes a filter in its place; nothing happens when it is not there. -/
def modify (c : Collection) (id : Guid) (change : Filter → Filter) : Collection :=
  { c with filters := modifyFirst id change c.filters }

def remove (c : Collection) (id : Guid) : Collection :=
  { c with filters := c.filters.eraseP (·.id = id) }

def clear (c : Collection) : Collection := { c with filters := [] }

def withCombinator (c : Collection) (combinator : Combinator) : Collection := { c with combinator }

def size (c : Collection) : Nat := c.filters.length

end Collection

end ODataQuery
