import ODataQuery.Filter.Payload
import ODataQuery.Text.Case

/-! Entities and their declared fields. -/
namespace ODataQuery

structure FieldOf (τ : Type) where
  name : String
  type : τ
  filterable : Bool := true
  sortable : Bool := true
  /-- The field of a nested entity by which it is shown. -/
  display : Option String := none

inductive FieldType
  | text
  | guid
  | integer
  | decimal
  | boolean
  | timestamp
  | date
  | choice (values : List String)
  | nested (entity : String) (fields : List (FieldOf FieldType))

abbrev Field := FieldOf FieldType

structure Entity where
  name : String
  fields : List Field

namespace FieldType

def valueType : FieldType → ValueType
  | text | guid => .string
  | integer | decimal => .numeric
  | boolean => .boolean
  | timestamp | date => .date
  | choice _ => .enumeration
  | nested _ _ => .complex

def isNested : FieldType → Bool
  | nested _ _ => true
  | _ => false

/-- The values a choice is made from; other types have none. -/
def choices : FieldType → List String
  | choice values => values
  | _ => []

end FieldType

namespace Entity

/-- The first of some fields with this name in any case. -/
def findField? (fields : List Field) (name : String) : Option Field :=
  fields.find? fun f => Text.equalsIgnoringCase f.name name

def field? (e : Entity) (name : String) : Option Field := findField? e.fields name

end Entity

end ODataQuery
