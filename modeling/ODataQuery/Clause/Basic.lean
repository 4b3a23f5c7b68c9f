import ODataQuery.Clause.Fragment
import ODataQuery.Filter.Collection
import ODataQuery.Path

/-! Filter clauses. Filters that share a path and an operator form a group, which any of its
fragments satisfies; the groups are joined by the combinator. Filters that ask nothing are left
out. -/
namespace ODataQuery

/-- Fragments of one path and operator, each of them once by its text. -/
structure Group where
  path : String
  operator : Operator
  fragments : List Fragment
  deriving DecidableEq

namespace Group

def add (g : Group) (fragment : Fragment) : Group :=
  if g.fragments.any fun other => other.text g.path = fragment.text g.path then g
  else { g with fragments := g.fragments ++ [fragment] }

/-- A single fragment as it is, several joined by `or` in parentheses. -/
def text (g : Group) : String :=
  match g.fragments.map (Fragment.text g.path) with
  | [only] => only
  | several => "(" ++ " or ".intercalate several ++ ")"

end Group

/-- What filters are compiled against: the present moment and the paths of declared fields. -/
structure Compiler where
  now : Instant
  resolver : Option Resolver := none

structure Clause where
  groups : List Group
  combinator : Combinator
  deriving DecidableEq

namespace Clause

/-- Adds a fragment to the group of its path and operator, or as a new group at the end. -/
def addFragment (path : String) (operator : Operator) (fragment : Fragment) :
    List Group → List Group
  | [] => [⟨path, operator, [fragment]⟩]
  | g :: rest =>
    if g.path = path ∧ g.operator = operator then g.add fragment :: rest
    else g :: addFragment path operator fragment rest

def text (c : Clause) : String := c.combinator.separator.intercalate (c.groups.map Group.text)

end Clause

namespace Compiler

/-- The path a filter is compared under. -/
def path (c : Compiler) (f : Filter) : String := Path.effective f.field f.property c.resolver

/-- The text of one filter, or `none` when it asks nothing. -/
def render? (c : Compiler) (f : Filter) : Option String :=
  (Fragment.ofFilter? c.now f).map (Fragment.text (c.path f))

def addFilter (c : Compiler) (groups : List Group) (f : Filter) : List Group :=
  match Fragment.ofFilter? c.now f with
  | none => groups
  | some fragment => Clause.addFragment (c.path f) f.operator fragment groups

def clause (c : Compiler) (filters : List Filter) (combinator : Combinator) : Clause :=
  ⟨filters.foldl c.addFilter [], combinator⟩

/-- The clause of a list of filters as text; it is empty when no filter asks anything. -/
def compileList (c : Compiler) (filters : List Filter) (combinator : Combinator) : String :=
  (c.clause filters combinator).text

def compile (c : Compiler) (filters : Collection) : String :=
  c.compileList filters.filters filters.combinator

end Compiler

end ODataQuery
