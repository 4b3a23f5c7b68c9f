import ODataQuery.Filter.Basic
import ODataQuery.Json.Shape
import ODataQuery.Time.Stored

/-! The stored form of filters. Reading it does not check the operator against the kind of the
values. -/
namespace ODataQuery

open Json (Entry)

def Instant.ofJson? (j : Json) : Option Instant := do Time.relaxed? (← j.asString?)

def Guid.ofJson? (j : Json) : Option Guid := do Guid.ofText? (← j.asString?)

namespace Literal

def toJson : Literal → Json
  | text s => .object [("String", .string s)]
  | number x => .object [("Number", .ofReal x)]
  | boolean b => .object [("Boolean", .bool b)]
  | instant t => .object [("DateTime", t.toJson)]
  | guid g => .object [("Guid", .string g.text)]
  | null => .string "Null"

def ofJson? (j : Json) : Option Literal :=
  match j.variant? with
  | some ("String", some v) => v.asString?.map text
  | some ("Number", some v) => v.asReal?.map number
  | some ("Boolean", some v) => v.asBool?.map boolean
  | some ("DateTime", some v) => (Instant.ofJson? v).map instant
  | some ("Guid", some v) => (Guid.ofJson? v).map guid
  | some ("Null", none) | some ("Null", some .null) => some null
  | _ => none

end Literal

def Operator.ofJson? (j : Json) : Option Operator := j.unitVariant?.bind Operator.ofName?

def TimeUnit.ofJson? (j : Json) : Option TimeUnit := j.unitVariant?.bind TimeUnit.ofName?

def DateMode.ofJson? (j : Json) : Option DateMode := j.unitVariant?.bind DateMode.ofName?

namespace DateRange

def toJson (r : DateRange) : Json :=
  .object [("start", .ofOption Instant.toJson r.start), ("end", .ofOption Instant.toJson r.stop)]

def ofJson? (j : Json) : Option DateRange := do
  let (start, stop) ← j.record2? "start" "end"
  some ⟨← start.optional Instant.ofJson?, ← stop.optional Instant.ofJson?⟩

end DateRange

def maxAmount : Nat := 4294967295

namespace DateCondition

def toJson (d : DateCondition) : Json :=
  .object
    [("value", .ofOption Instant.toJson d.value), ("date_operator", .string d.mode.name),
     ("time_unit", .string d.unit.name), ("unit_value", .ofOption Json.ofNat d.amount),
     ("range", d.range.toJson)]

def ofJson? (j : Json) : Option DateCondition := do
  match ← j.entries? ["value", "date_operator", "time_unit", "unit_value", "range"] with
  | [value, mode, unit, amount, range] =>
    some
      { value := ← value.optional Instant.ofJson?
        mode := ← mode.required DateMode.ofJson?
        unit := ← unit.required TimeUnit.ofJson?
        amount := ← amount.optional (Json.asNat? maxAmount)
        range := ← range.required DateRange.ofJson? }
  | _ => none

end DateCondition

namespace Payload

def toJson : Payload → Json
  | text value => .object [("String", .object [("value", .ofOption Json.string value)])]
  | numbers value secondary =>
    .object
      [("Numeric",
        .object
          [("value", .ofOption Json.ofReal value),
           ("secondary_value", .ofOption Json.ofReal secondary)])]
  | date d => .object [("Date", d.toJson)]
  | choice selected =>
    .object [("Enumerated", .object [("selected", .array (selected.map Literal.toJson))])]

def field? (name : String) (j : Json) : Option Entry :=
  match j.entries? [name] with
  | some [entry] => some entry
  | _ => none

def ofJson? (j : Json) : Option Payload :=
  match j.variant? with
  | some ("String", some v) => do
    some (text (← (← field? "value" v).optional Json.asString?))
  | some ("Numeric", some v) => do
    let (value, secondary) ← v.record2? "value" "secondary_value"
    some (numbers (← value.optional Json.asReal?) (← secondary.optional Json.asReal?))
  | some ("Date", some v) => (DateCondition.ofJson? v).map date
  | some ("Enumerated", some v) => do
    some (choice (← (← field? "selected" v).required (Json.listOf? Literal.ofJson?)))
  | _ => none

end Payload

namespace Filter

def toJson (f : Filter) : Json :=
  .object
    [("id", .string f.id.text), ("field", .string f.field),
     ("property", .ofOption Json.string f.property), ("is_immediate", .bool f.immediate),
     ("ui", .object [("label", .ofOption Json.string f.label)]),
     ("operator", .string f.operator.name), ("kind", f.payload.toJson)]

def labelOfJson? (j : Json) : Option (Option String) := do
  (← Payload.field? "label" j).optional Json.asString?

def ofJson? (j : Json) : Option Filter := do
  match ← j.entries? ["id", "field", "property", "is_immediate", "ui", "operator", "kind"] with
  | [id, field, property, immediate, presentation, operator, payload] =>
    some
      { id := ← id.required Guid.ofJson?
        field := ← field.required Json.asString?
        property := ← property.optional Json.asString?
        immediate := ← immediate.required Json.asBool?
        label := ← presentation.required labelOfJson?
        operator := ← operator.required Operator.ofJson?
        payload := ← payload.required Payload.ofJson? }
  | _ => none

end Filter

end ODataQuery
