import ODataQuery.Query.Form
import ODataQuery.Json.Shape
import ODataQuery.Text.Blank

/-! The options of one query of a collection and the parameters they make. Blank clauses and unset
paging give none. -/
namespace ODataQuery

structure QueryOptions where
  filter : String := ""
  orderBy : String := ""
  top : Option Nat := none
  skip : Option Nat := none
  count : Bool := false
  expand : List String := []
  deriving DecidableEq

namespace QueryOptions

def natText (n : Nat) : String := String.ofList (digitsOf n)

def unlessEmpty (name value : String) : List (String × String) :=
  if value.isEmpty then [] else [(name, value)]

def ofNumber (name : String) : Option Nat → List (String × String)
  | some n => [(name, natText n)]
  | none => []

/-- The parameters in the order in which they are sent. Skipping no rows is not sent. -/
def pairs (o : QueryOptions) : List (String × String) :=
  unlessEmpty "$filter" (Text.trim o.filter) ++
  unlessEmpty "$orderby" (Text.trim o.orderBy) ++
  ofNumber "$top" o.top ++
  ofNumber "$skip" (o.skip.filter (0 < ·)) ++
  (if o.count then [("$count", "true")] else []) ++
  unlessEmpty "$expand"
    (",".intercalate ((o.expand.map Text.trim).filter fun e => !e.isEmpty))

def queryString (o : QueryOptions) : String := Form.encode o.pairs

def toJson (o : QueryOptions) : Json :=
  .object
    ([("filter", .string o.filter), ("order_by", .string o.orderBy)] ++
      Json.memberOf "top" Json.ofNat o.top ++ Json.memberOf "skip" Json.ofNat o.skip ++
      [("count", .bool o.count)] ++
      (if o.expand.isEmpty then [] else [("expand", .array (o.expand.map .string))]))

def ofJson? (j : Json) : Option QueryOptions := do
  match ← j.entries? ["filter", "order_by", "top", "skip", "count", "expand"] with
  | [filter, orderBy, top, skip, count, expand] =>
    some
      { filter := ← filter.orElse Json.asString? ""
        orderBy := ← orderBy.orElse Json.asString? ""
        top := ← top.optionalOrElse (Json.asNat? 4294967295)
        skip := ← skip.optionalOrElse (Json.asNat? 4294967295)
        count := ← count.orElse Json.asBool? false
        expand := ← expand.orElse (Json.listOf? Json.asString?) [] }
  | _ => none

end QueryOptions

end ODataQuery
