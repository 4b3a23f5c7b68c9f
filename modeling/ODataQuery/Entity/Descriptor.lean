import ODataQuery.Entity.Basic

/-! Descriptors: what is shown of the fields of an entity, and under which paths. A nested entity is
shown by one of its own fields. -/
namespace ODataQuery

structure Descriptor where
  name : String
  /-- The path in queries; it leads into a nested entity. -/
  path : String
  declaredType : ValueType
  /-- The type of the values behind the path. -/
  valueType : ValueType
  filterable : Bool
  sortable : Bool
  /-- The field by which a nested entity is shown. -/
  child : Option String
  choices : List String
  deriving DecidableEq

namespace Descriptor

def isComplex (d : Descriptor) : Bool := d.declaredType = .complex

/-- Fields that keep the books: they are left out unless they are asked for. -/
def systemFields : List String := ["Id", "IsDeleted", "Version"]

/-- The names by which a nested entity is shown when none is declared, in order of preference. -/
def preferredChildren : List String := ["Name", "Title", "DisplayName", "Description", "Code"]

structure Selection where
  includeSystem : Bool := false
  exclude : List String := []

def Selection.excludes (s : Selection) (name : String) : Bool :=
  (!s.includeSystem && systemFields.any (Text.equalsIgnoringCase · name)) ||
    s.exclude.any (Text.equalsIgnoringCase · name)

/-- The field by which a nested entity is shown: the declared one, else the first preferred one,
each only if it is not nested itself. -/
def child? (display : Option String) (fields : List Field) : Option Field :=
  let plain (name : String) : Option Field :=
    (Entity.findField? fields name).filter fun f => !f.type.isNested
  (display.bind plain).or (preferredChildren.findSome? plain)

/-- A nested entity with no field to show it by keeps its own name as path and is text. -/
def ofField (f : Field) : Descriptor :=
  let plain : Descriptor :=
    { name := f.name
      path := f.name
      declaredType := f.type.valueType
      valueType := f.type.valueType
      filterable := f.filterable
      sortable := f.sortable
      child := none
      choices := f.type.choices }
  match f.type with
  | .nested _ fields =>
    match child? f.display fields with
    | some c =>
      { plain with
        path := f.name ++ "." ++ c.name
        valueType := c.type.valueType
        child := some c.name }
    | none => { plain with valueType := .string }
  | _ => plain

/-- The descriptors of an entity in the order of its fields. -/
def resolve (e : Entity) (selection : Selection) : List Descriptor :=
  (e.fields.filter fun f => !selection.excludes f.name).map ofField

/-- Descriptors that were resolved before, by the identity of their entity. -/
structure Cache where
  entries : List (Nat × List Descriptor) := []

namespace Cache

def holds (c : Cache) (entity : Nat) : Bool := (c.entries.lookup entity).isSome

/-- The descriptors of an entity, resolved the first time it is asked for. -/
def get (c : Cache) (entity : Nat) (e : Entity) : List Descriptor × Cache :=
  match c.entries.lookup entity with
  | some found => (found, c)
  | none => (resolve e {}, ⟨c.entries ++ [(entity, resolve e {})]⟩)

def size (c : Cache) : Nat := c.entries.length

end Cache

end Descriptor

end ODataQuery
