import ODataQuery.Query.Error
import ODataQuery.Json.Reader
import ODataQuery.Json.Shape
import ODataQuery.Text.Case
import ODataQuery.Text.Blank

/-! Envelopes: the count and the rows that collections are answered with, and how they are read from
the body of a response. -/
namespace ODataQuery

structure Envelope (α : Type) where
  count : Option Int
  rows : List α

namespace Envelope

/-- The keys of the count, in order of preference. -/
def countKeys : List String := ["count", "@odata.count", "odata.count"]

/-- The keys of the rows, in order of preference. -/
def rowKeys : List String := ["value", "items"]

/-- The key in an object that goes by one of the names, in any case: the best name that is there
decides, and among its keys the first. -/
def keyOf? (names : List String) (members : List (String × Json)) : Option String :=
  names.findSome? fun name => (members.map (·.1)).find? (Text.equalsIgnoringCase · name)

/-- Takes a member out of an object; the last member moves to its place. -/
def removeMember (members : List (String × Json)) (key : String) : List (String × Json) :=
  let before := members.takeWhile (·.1 != key)
  match members.dropWhile (·.1 != key) with
  | [] => before
  | _ :: after =>
    match after.getLast? with
    | none => before
    | some last => before ++ last :: after.dropLast

/-- The member that goes by one of the names, and the object without it. -/
def takeMember (names : List String) (members : List (String × Json)) :
    Option Json × List (String × Json) :=
  match keyOf? names members with
  | none => (none, members)
  | some key => (members.lookup key, removeMember members key)

def lowestCount : Int := -9223372036854775808

def highestCount : Int := 9223372036854775807

/-- A count is a whole number, or a text that is one between blanks. -/
def countOf? : Json → Option Int
  | .number (.integer z) => (Json.ofInt z).asInt? lowestCount highestCount
  | .string s => intWithin? lowestCount highestCount (Text.trim s)
  | _ => none

/-- The rows; null stands for none. -/
def rowsOf (decode : Json → Except String α) : Json → Except BodyFault (List α)
  | .null => .ok []
  | .array items => (items.mapM decode).mapError .badRows
  | _ => .error (.badRows "expected an array")

def readCount : Option Json → Except BodyFault (Option Int)
  | none | some .null => .ok none
  | some j =>
    match countOf? j with
    | some n => .ok (some n)
    | none => .error (.badCount j)

def read (decode : Json → Except String α) (body : String) :
    Except BodyFault (Option Int × List α) := do
  let members ← match Json.parse? body with
    | none => throw .unreadable
    | some (.object members) => pure members
    | some _ => throw .notAnObject
  let (countEntry, rest) := takeMember countKeys members
  let count ← readCount countEntry
  let rows ← match (takeMember rowKeys rest).1 with
    | none => throw .noRows
    | some j => rowsOf decode j
  return (count, rows)

/-- The envelope of a body. An envelope without count is refused, after everything else. -/
def decode (decodeRow : Json → Except String α) (body : String) : Except QueryError (Envelope α) :=
  match read decodeRow body with
  | .error fault => .error (.badBody body fault)
  | .ok (none, _) => .error .noCount
  | .ok (some n, rows) => .ok ⟨some n, rows⟩

def size (e : Envelope α) : Nat := e.rows.length

def isEmpty (e : Envelope α) : Bool := e.rows.isEmpty

def toJson (e : Envelope Json) : Json :=
  .object [("count", .ofOption Json.ofInt e.count), ("value", .array e.rows)]

/-- The stored form, with exact keys; both may be missing. -/
def ofJson? (j : Json) : Option (Envelope Json) := do
  let (count, rows) ← j.record2? "count" "value"
  some ⟨← count.optionalOrElse (Json.asInt? lowestCount highestCount),
    ← rows.orElse Json.asArray? []⟩

end Envelope

end ODataQuery
