import ODataQuery.Filter.Basic

/-! Fragments: what one filter asks of the path it is compared under, and how that is written. -/
namespace ODataQuery

/-- One condition on a path. A choice lists two operands at least. -/
inductive Fragment
  | nullary (operator : Operator)
  | single (operator : Operator) (operand : Literal)
  | bounded (low high : Literal)
  | anyOf (operands : List Literal)
  | noneOf (operands : List Literal)
  deriving DecidableEq

namespace Fragment

/-- An inclusive range; a missing bound leaves its side open. -/
def range? : Option Literal → Option Literal → Option Fragment
  | some low, some high => some (bounded low high)
  | some low, none => some (single .greaterOrEqual low)
  | none, some high => some (single .lessOrEqual high)
  | none, none => none

def finite? (x : Option Binary64) : Option Literal := (x.filter Binary64.isFinite).map .number

/-- `now` moved by whole units, forward or back; `none` when that is no instant. Twelve months are
counted for a year, and at most 2³² - 1 of them. -/
def shift? (now : Instant) (unit : TimeUnit) (amount : Nat) (forward : Bool) : Option Instant :=
  let signed (n : Nat) : Int := if forward then n else -n
  match unit with
  | .minute => now.addSeconds? (signed (amount * 60))
  | .hour => now.addSeconds? (signed (amount * 3600))
  | .day => now.addSeconds? (signed (amount * 86400))
  | .week => now.addSeconds? (signed (amount * 604800))
  | .month => now.addMonths? (signed amount)
  | .year => if amount * 12 < 4294967296 then now.addMonths? (signed (amount * 12)) else none

def ofDate? (now : Instant) (operator : Operator) (d : DateCondition) : Option Fragment :=
  match d.mode with
  | .last => do
    let start ← shift? now d.unit (← d.amount) false
    range? (some (.instant start)) (some (.instant now))
  | .next => do
    let stop ← shift? now d.unit (← d.amount) true
    range? (some (.instant now)) (some (.instant stop))
  | .range => range? (d.range.start.map .instant) (d.range.stop.map .instant)
  | .exact =>
    if operator = .between then range? (d.range.start.map .instant) (d.range.stop.map .instant)
    else d.value.map fun t => single operator (.instant t)

/-- The condition of a choice: any of the values, or none of them; blank ones do not count. -/
def ofChoice? (operator : Operator) (selected : List Literal) : Option Fragment :=
  match selected.filter fun v => !v.isBlank with
  | [] => none
  | [v] => some (single (if operator = .notEqual then .notEqual else .equal) v)
  | values => some (if operator = .notEqual then noneOf values else anyOf values)

/-- What a filter asks, or `none` when it asks nothing. -/
def ofFilter? (now : Instant) (f : Filter) : Option Fragment :=
  if f.isInert then none
  else if f.operator.isNullary then some (nullary f.operator)
  else
    match f.payload with
    | .text value => value.map fun s => single f.operator (.text s)
    | .numbers value secondary =>
      if f.operator = .between then range? (finite? value) (finite? secondary)
      else (finite? value).map (single f.operator)
    | .date d => ofDate? now f.operator d
    | .choice selected => ofChoice? f.operator selected

/-- Comparisons of one path with each of some values, joined in parentheses. -/
def joined (path : String) (operator : Operator) (separator : String) (operands : List Literal) :
    String :=
  "(" ++ separator.intercalate (operands.map fun v => operator.write [path, v.render]) ++ ")"

def text (path : String) : Fragment → String
  | nullary operator => operator.write [path]
  | single operator v => operator.write [path, v.render]
  | bounded low high => Operator.between.write [path, low.render, high.render]
  | anyOf operands => joined path .equal " or " operands
  | noneOf operands => joined path .notEqual " and " operands

end Fragment

end ODataQuery
