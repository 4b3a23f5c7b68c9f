import ODataQuery.Expression.Clause
import ODataQuery.Expression.Conjunction
import ODataQuery.Filter.Collection

/-! Filter expressions: clauses joined by one combinator, read from text into a collection. -/
namespace ODataQuery.Expression

def combinatorOfToken (t : Token) : Except FilterError Combinator :=
  if t.isKeyword "and" then .ok .and
  else if t.isKeyword "or" then .ok .or
  else .error (.unexpectedToken t.describe)

/-- The clauses behind the first one; `joint` is the combinator read so far. -/
def moreClauses (joint : Option Combinator) (ts : List Token) :
    Except FilterError (Option Combinator × List Filter) :=
  match ts with
  | [] => .ok (joint, [])
  | t :: rest =>
    match combinatorOfToken t with
    | .error e => .error e
    | .ok combinator =>
      if joint.any (· ≠ combinator) then .error .mixedCombinators
      else
        match _h : clause rest with
        | .error e => .error e
        | .ok (f, left) => do
          let (joint, filters) ← moreClauses (some combinator) left
          return (joint, f :: filters)
termination_by ts.length
decreasing_by
  have := clause_shorter _h
  simp
  omega

/-- The clauses of an expression and what joins them; a single clause is joined by `and`. -/
def clauses (ts : List Token) : Except FilterError (Combinator × List Filter) := do
  let (first, rest) ← clause ts
  let (joint, more) ← moreClauses none rest
  return (joint.getD .and, first :: more)

/-- Numbers filters by their places, from one on, so that each has an identity of its own. -/
def numbered (filters : List Filter) : List Filter :=
  filters.mapIdx fun i f => { f with id := Guid.ofNat (i + 1) }

/-- A collection of the clauses; under `and` none repeats the field and operator of another. -/
def collect (combinator : Combinator) (filters : List Filter) : Except FilterError Collection := do
  match combinator with
  | .and => return ⟨numbered (← conjunction filters), .and⟩
  | .or => return ⟨numbered filters, .or⟩

def parse (text : String) : Except FilterError Collection := do
  let trimmed := Text.trim text
  if trimmed.isEmpty then throw .emptyExpression
  let placed ← tokenize trimmed
  if placed.isEmpty then throw .emptyExpression
  let (combinator, filters) ← clauses (placed.map Placed.token)
  collect combinator filters

end ODataQuery.Expression
