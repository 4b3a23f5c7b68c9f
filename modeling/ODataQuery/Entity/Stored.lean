import ODataQuery.Entity.Column
import ODataQuery.Json.Shape

/-! The stored forms of descriptors and columns. Empty choices are left out. -/
namespace ODataQuery

open Json (Entry)

def ValueType.ofJson? (j : Json) : Option ValueType := j.unitVariant?.bind ValueType.ofName?

/-- The member for choices, left out when there are none. -/
def choicesMember (choices : List String) : List (String × Json) :=
  if choices.isEmpty then [] else [("choices", .array (choices.map .string))]

def choicesOf? (e : Entry) : Option (List String) := e.orElse (Json.listOf? Json.asString?) []

namespace Descriptor

def toJson (d : Descriptor) : Json :=
  .object
    ([("name", .string d.name), ("property_path", .string d.path),
      ("semantic_type", .string d.declaredType.name), ("value_type", .string d.valueType.name),
      ("filterable", .bool d.filterable), ("sortable", .bool d.sortable),
      ("complex_child_field", .ofOption Json.string d.child)] ++ choicesMember d.choices)

def ofJson? (j : Json) : Option Descriptor := do
  match ← j.entries?
    ["name", "property_path", "semantic_type", "value_type", "filterable", "sortable",
     "complex_child_field", "choices"] with
  | [name, path, declaredType, valueType, filterable, sortable, child, choices] =>
    some
      { name := ← name.required Json.asString?
        path := ← path.required Json.asString?
        declaredType := ← declaredType.required ValueType.ofJson?
        valueType := ← valueType.required ValueType.ofJson?
        filterable := ← filterable.required Json.asBool?
        sortable := ← sortable.required Json.asBool?
        child := ← child.optional Json.asString?
        choices := ← choicesOf? choices }
  | _ => none

end Descriptor

namespace Column

def toJson (c : Column) : Json :=
  .object
    ([("name", .string c.name), ("label", .string c.label), ("field", .string c.field),
      ("is_complex", .bool c.isComplex), ("value_type", .string c.valueType.name),
      ("filterable", .bool c.filterable), ("sortable", .bool c.sortable)] ++
      choicesMember c.choices)

def ofJson? (j : Json) : Option Column := do
  match ← j.entries?
    ["name", "label", "field", "is_complex", "value_type", "filterable", "sortable",
     "choices"] with
  | [name, label, field, isComplex, valueType, filterable, sortable, choices] =>
    some
      { name := ← name.required Json.asString?
        label := ← label.required Json.asString?
        field := ← field.required Json.asString?
        isComplex := ← isComplex.required Json.asBool?
        valueType := ← valueType.required ValueType.ofJson?
        filterable := ← filterable.required Json.asBool?
        sortable := ← sortable.required Json.asBool?
        choices := ← choicesOf? choices }
  | _ => none

end Column

end ODataQuery
