import ODataQuery.Filter.Payload

/-! Filters: one condition on one field. The functions that make a filter from an operator check that
the operator fits the kind of its values, and so does changing the operator; edits of the values keep
their kind. -/
namespace ODataQuery

structure Filter where
  /-- The identity of the filter within a collection. -/
  id : Guid := .nil
  /-- The declared field, or a property path. -/
  field : String
  /-- A property that is compared instead of the field when it is usable. -/
  property : Option String := none
  /-- An edit of the filter takes effect without delay. -/
  immediate : Bool := false
  label : Option String := none
  operator : Operator
  payload : Payload
  deriving DecidableEq

namespace Filter

def Allowed (operator : Operator) (payload : Payload) : Prop :=
  operator ∈ payload.allowedOperators

instance (operator : Operator) (payload : Payload) : Decidable (Allowed operator payload) :=
  inferInstanceAs (Decidable (_ ∈ _))

def make (field : String) (operator : Operator) (payload : Payload) : Except FilterError Filter :=
  if Allowed operator payload then .ok ⟨.nil, field, none, false, none, operator, payload⟩
  else .error (.unsupportedOperator operator payload.kindName)

/-- A comparison with a text. The empty text is no value. -/
def text (field : String) (operator : Operator) (value : String) : Except FilterError Filter :=
  make field operator (.text (if value.isEmpty then none else some value))

def number (field : String) (operator : Operator) (value : Binary64) : Except FilterError Filter :=
  make field operator (.numbers (some value) none)

def between (field : String) (low high : Binary64) : Filter :=
  ⟨.nil, field, none, false, none, .between, .numbers (some low) (some high)⟩

def date (field : String) (operator : Operator) (value : Instant) : Except FilterError Filter :=
  make field operator (.date ⟨some value, .exact, .day, none, {}⟩)

/-- Dates within so many units before now, or after now, as the mode says. -/
def relative (field : String) (mode : DateMode) (amount : Nat) (unit : TimeUnit) : Filter :=
  ⟨.nil, field, none, false, none, .between, .date ⟨none, mode, unit, some amount, {}⟩⟩

/-- Dates between two bounds; a missing bound leaves its side open. -/
def dateRange (field : String) (start stop : Option Instant) : Filter :=
  ⟨.nil, field, none, false, none, .between, .date ⟨none, .range, .day, none, ⟨start, stop⟩⟩⟩

/-- Any of some values, or none of them when the operator is `notEqual`. -/
def choice (field : String) (operator : Operator) (values : List Literal) :
    Except FilterError Filter :=
  make field operator (.choice (Payload.selection values))

def boolean (field : String) (value : Bool) : Filter :=
  ⟨.nil, field, none, false, none, .equal, .choice [.boolean value]⟩

def setOperator (f : Filter) (operator : Operator) : Except FilterError Filter :=
  if Allowed operator f.payload then .ok { f with operator }
  else .error (.unsupportedOperator operator f.payload.kindName)

inductive ValueEdit
  | text (value : Option String)
  | numbers (value secondary : Option Binary64)
  | date (condition : DateCondition)
  | select (value : Literal)
  | deselect (value : Literal)
  | clearSelection

/-- The changed values, or `none` when they are of another kind than the change. -/
def ValueEdit.change? : ValueEdit → Payload → Option Payload
  | text value, .text _ => some (.text value)
  | numbers value secondary, .numbers _ _ => some (.numbers value secondary)
  | date condition, .date _ => some (.date condition)
  | select value, .choice selected => some (.choice (Payload.select value selected))
  | deselect value, .choice selected => some (.choice (Payload.deselect value selected))
  | clearSelection, .choice _ => some (.choice [])
  | _, _ => none

def editValue? (f : Filter) (edit : ValueEdit) : Option Filter :=
  (edit.change? f.payload).map fun payload => { f with payload }

def hasUsable : Option Binary64 → Bool
  | some x => x.isFinite
  | none => false

/-- Has no usable value and an operator that needs one. Such a filter asks for nothing. -/
def isInert (f : Filter) : Bool :=
  if f.operator.isNullary then false
  else
    match f.payload with
    | .text value => value.getD "" = ""
    | .numbers value secondary =>
      if f.operator = .between then !hasUsable value && !hasUsable secondary
      else !hasUsable value
    | .date d =>
      match d.mode with
      | .last | .next => d.amount.getD 0 = 0
      | .range => d.range.isOpen
      | .exact => if f.operator = .between then d.range.isOpen else d.value.isNone
    | .choice selected => selected.all Literal.isBlank

theorem make_ok_iff {field : String} {operator : Operator} {payload : Payload} {f : Filter} :
    make field operator payload = .ok f ↔
      Allowed operator payload ∧ f = ⟨.nil, field, none, false, none, operator, payload⟩ := by
  unfold make
  split <;> simp_all [eq_comm]

theorem ValueEdit.allowedOperators_change? {edit : ValueEdit} {p q : Payload}
    (h : edit.change? p = some q) : q.allowedOperators = p.allowedOperators := by
  cases edit <;> cases p <;> simp [change?] at h <;> subst h <;> rfl

end Filter

end ODataQuery
