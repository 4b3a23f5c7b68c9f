import ODataQuery.Filter.Error
import ODataQuery.Filter.Literal

/-! The values a filter compares with, shaped by the type of its field. -/
namespace ODataQuery

inductive ValueType
  | string
  | numeric
  | boolean
  | date
  | enumeration
  | complex
  deriving DecidableEq

namespace ValueType

def all : List ValueType := [string, numeric, boolean, date, enumeration, complex]

def name : ValueType → String
  | string => "String"
  | numeric => "Numeric"
  | boolean => "Boolean"
  | date => "Date"
  | enumeration => "Enumeration"
  | complex => "Complex"

def ofName? (s : String) : Option ValueType := all.find? (·.name == s)

end ValueType

/-- The bounds of a range of dates; either side may be open. -/
structure DateRange where
  start : Option Instant := none
  stop : Option Instant := none
  deriving DecidableEq

namespace DateRange

def isOpen (r : DateRange) : Bool := r.start.isNone && r.stop.isNone

end DateRange

/-- What a date is compared with: a fixed instant, a number of units before or after now, or a
range. -/
structure DateCondition where
  value : Option Instant := none
  mode : DateMode := .exact
  unit : TimeUnit := .day
  amount : Option Nat := none
  range : DateRange := {}
  deriving DecidableEq

/-- The values of a filter. The second number is the upper bound of a range. -/
inductive Payload
  | text (value : Option String)
  | numbers (value : Option Binary64) (secondary : Option Binary64)
  | date (condition : DateCondition)
  | choice (selected : List Literal)
  deriving DecidableEq

namespace Payload

def select (value : Literal) (selected : List Literal) : List Literal :=
  if selected.any (·.same value) then selected else selected ++ [value]

def deselect (value : Literal) (selected : List Literal) : List Literal :=
  selected.filter fun v => !v.same value

def selection (values : List Literal) : List Literal :=
  values.foldl (fun selected v => select v selected) []

def allowedOperators : Payload → List Operator
  | text _ => Operator.forText
  | numbers _ _ | date _ => Operator.forOrdered
  | choice _ => Operator.forChoice

def kindName : Payload → String
  | text _ => "string"
  | numbers _ _ => "numeric"
  | date _ => "date"
  | choice _ => "enumerated"

/-- The values of a fresh filter on a field of this type: none. -/
def empty : ValueType → Payload
  | .string | .complex => text none
  | .numeric => numbers none none
  | .date => date {}
  | .boolean | .enumeration => choice []

/-- The operator of a fresh filter on a field of this type. -/
def defaultOperator : ValueType → Operator
  | .string | .complex => .contains
  | _ => .equal

def sameNumber : Option Binary64 → Option Binary64 → Bool
  | none, none => true
  | some x, some y => x.same y
  | _, _ => false

def sameList : List Literal → List Literal → Bool
  | [], [] => true
  | a :: as, b :: bs => a.same b && sameList as bs
  | _, _ => false

/-- Equality of values, under which NaN differs from itself. -/
def same : Payload → Payload → Bool
  | text a, text b => decide (a = b)
  | numbers a c, numbers b d => sameNumber a b && sameNumber c d
  | date a, date b => decide (a = b)
  | choice a, choice b => sameList a b
  | _, _ => false

theorem defaultOperator_allowed (t : ValueType) :
    defaultOperator t ∈ (empty t).allowedOperators := by
  cases t <;> decide

end Payload

end ODataQuery
