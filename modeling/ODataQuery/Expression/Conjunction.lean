import ODataQuery.Filter.Basic

/-! Keeping the meaning of `and` for clauses that share a field and an operator, which compiling
would join by `or`: repetitions are dropped, several exclusions become one, and anything else is
refused. -/
namespace ODataQuery.Expression

/-- The values that a filter with the operator `notEqual` excludes. -/
def excludedValues (f : Filter) : List Literal :=
  match f.payload with
  | .text value => (value.map Literal.text).toList
  | .numbers value _ => (value.map Literal.number).toList
  | .date d => (d.value.map Literal.instant).toList
  | .choice selected => selected

def mergeExclusions (f g : Filter) : Filter :=
  ⟨.nil, f.field, none, false, none, .notEqual,
    .choice (Payload.selection (excludedValues f ++ excludedValues g))⟩

def insertClause (f : Filter) : List Filter → Except FilterError (List Filter)
  | [] => .ok [f]
  | g :: rest =>
    if g.field = f.field ∧ g.operator = f.operator then
      if g.payload.same f.payload then .ok (g :: rest)
      else if f.operator = .notEqual then .ok (mergeExclusions g f :: rest)
      else .error (.repeatedClause f.field f.operator)
    else (insertClause f rest).map (g :: ·)

/-- The clauses with at most one for each field and operator. -/
def conjunction (clauses : List Filter) : Except FilterError (List Filter) :=
  clauses.foldlM (fun folded f => insertClause f folded) []

end ODataQuery.Expression
