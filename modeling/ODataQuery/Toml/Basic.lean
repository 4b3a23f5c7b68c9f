import ODataQuery.Number.Binary64

/-! TOML values. -/
namespace ODataQuery

inductive Toml
  | string (value : String)
  | integer (value : Int)
  | real (value : Binary64)
  | boolean (value : Bool)
  /-- A date, a time or both, as written. -/
  | moment (text : String)
  | array (items : List Toml)
  | table (entries : List (String × Toml))

namespace Toml

def asString? : Toml → Option String
  | string s => some s
  | _ => none

def asNat? (bound : Nat) : Toml → Option Nat
  | integer z => if 0 ≤ z ∧ z ≤ bound then some z.toNat else none
  | _ => none

end Toml

end ODataQuery
