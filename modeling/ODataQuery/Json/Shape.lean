import ODataQuery.Json.Basic

/-! The shapes in which records and variants are stored. A record is an object with named fields,
others being ignored, or an array of its fields in order. A variant is its name alone, or an object
with the name as its only key and the content as value. -/
namespace ODataQuery.Json

/-- What stands for one field of a record. -/
inductive Entry
  | given (value : Json)
  | unnamed
  | cutOff

namespace Entry

def required (decode : Json → Option α) : Entry → Option α
  | given v => decode v
  | _ => none

/-- A field that may be null and, in an object, may be missing. -/
def optional (decode : Json → Option α) : Entry → Option (Option α)
  | given null => some none
  | given v => (decode v).map some
  | unnamed => some none
  | cutOff => none

def orElse (decode : Json → Option α) (default : α) : Entry → Option α
  | given v => decode v
  | _ => some default

def optionalOrElse (decode : Json → Option α) : Entry → Option (Option α)
  | given null => some none
  | given v => (decode v).map some
  | _ => some none

end Entry

/-- The entries of an array for so many fields, if it is not longer. -/
def positional? : Nat → List Json → Option (List Entry)
  | 0, [] => some []
  | 0, _ :: _ => none
  | fields + 1, [] => (positional? fields []).map (.cutOff :: ·)
  | fields + 1, v :: rest => (positional? fields rest).map (.given v :: ·)

def entries? (fields : List String) (j : Json) : Option (List Entry) :=
  match j with
  | object _ => some (fields.map fun f => match j.member? f with
    | some v => .given v
    | none => .unnamed)
  | array items => positional? fields.length items
  | _ => none

def variant? : Json → Option (String × Option Json)
  | string name => some (name, none)
  | object [(name, content)] => some (name, some content)
  | _ => none

/-- The name of a variant without content; null stands for no content as well. -/
def unitVariant? (j : Json) : Option String :=
  match j.variant? with
  | some (name, none) => some name
  | some (name, some null) => some name
  | _ => none

/-- A member of an object, left out when there is no value. -/
def memberOf (key : String) (encode : α → Json) : Option α → List (String × Json)
  | none => []
  | some a => [(key, encode a)]

def listOf? (decode : Json → Option α) (j : Json) : Option (List α) := do
  (← j.asArray?).mapM decode

def record2? (a b : String) (j : Json) : Option (Entry × Entry) :=
  match j.entries? [a, b] with
  | some [x, y] => some (x, y)
  | _ => none

end ODataQuery.Json
