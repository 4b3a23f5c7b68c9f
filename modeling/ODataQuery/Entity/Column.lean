import ODataQuery.Entity.Descriptor
import ODataQuery.Filter.Basic
import ODataQuery.Path

/-! Columns: descriptors with a readable label, and what they give to filters and paths. -/
namespace ODataQuery

structure Column where
  name : String
  label : String
  /-- The path in queries. -/
  field : String
  isComplex : Bool
  valueType : ValueType
  filterable : Bool
  sortable : Bool
  choices : List String := []
  deriving DecidableEq

namespace Column

/-- Adds the words of a name to a label. A word begins at an underscore, which becomes a blank, and
at a capital letter behind a small one or a digit. -/
def labelChars (previous : Option Char) : List Char → List Char
  | [] => []
  | c :: rest =>
    if c = '_' then ' ' :: labelChars (some ' ') rest
    else
      let startsWord :=
        Text.isUppercase c && previous.any fun p => Text.isLowercase p || isDigit p
      (if startsWord then [' ', c] else [c]) ++ labelChars (some c) rest

def labelOf (name : String) : String := String.ofList (labelChars none name.toList)

def ofDescriptor (d : Descriptor) : Column :=
  { name := d.name
    label := labelOf d.name
    field := d.path
    isComplex := d.isComplex
    valueType := d.valueType
    filterable := d.filterable
    sortable := d.sortable
    choices := d.choices }

def resolver (columns : List Column) : Resolver :=
  Resolver.ofList (columns.map fun c => (c.name, c.field))

def filter (c : Column) : Filter :=
  ⟨.nil, c.name, some c.field, false, some c.label, Payload.defaultOperator c.valueType,
    Payload.empty c.valueType⟩

end Column

end ODataQuery
