import ODataQuery.Number.Text

/-! JSON values. An object is a list of members in the order of its text; reading a key again keeps
its first position with the last value. -/
namespace ODataQuery

/-- A JSON number: a whole number from -2⁶³ to 2⁶⁴ - 1, or a real. -/
inductive Json.Number
  | integer (value : Int)
  | real (value : Binary64)
  deriving DecidableEq

inductive Json
  | null
  | bool (value : Bool)
  | number (value : Json.Number)
  | string (value : String)
  | array (items : List Json)
  | object (members : List (String × Json))

namespace Json

instance : Inhabited Json := ⟨null⟩

/-- Sets a member: in place when the key is there, at the end otherwise. -/
def setMember (members : List (String × Json)) (key : String) (value : Json) :
    List (String × Json) :=
  match members with
  | [] => [(key, value)]
  | (k, v) :: rest => if k = key then (k, value) :: rest else (k, v) :: setMember rest key value

/-- The value of a member; `none` when the value is no object or has no such key. -/
def member? (j : Json) (key : String) : Option Json :=
  match j with
  | object members => (members.find? (·.1 == key)).map (·.2)
  | _ => none

def ofNat (n : Nat) : Json := number (.integer n)

def ofInt (z : Int) : Json := number (.integer z)

/-- A real number; JSON has no infinities and no NaN, which become null. -/
def ofReal (x : Binary64) : Json := if x.isFinite then number (.real x) else null

def ofOption (encode : α → Json) : Option α → Json
  | none => null
  | some a => encode a

def asString? : Json → Option String
  | string s => some s
  | _ => none

def asBool? : Json → Option Bool
  | bool b => some b
  | _ => none

def asArray? : Json → Option (List Json)
  | array items => some items
  | _ => none

def asInt? (low high : Int) : Json → Option Int
  | number (.integer z) => if low ≤ z ∧ z ≤ high then some z else none
  | _ => none

def asNat? (bound : Nat) (j : Json) : Option Nat := (j.asInt? 0 bound).map Int.toNat

/-- Any number as a real; a whole number is rounded. -/
def asReal? : Json → Option Binary64
  | number (.integer z) => some (.ofInt z)
  | number (.real x) => some x
  | _ => none

end Json

end ODataQuery
