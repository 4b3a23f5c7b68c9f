import ODataQuery.Guid
import ODataQuery.Number.Text
import ODataQuery.Time.Format

/-! Literal values and how they are written in a clause: text in single quotes that are doubled
inside it, numbers positionally, instants to the second, the rest as words. -/
namespace ODataQuery

inductive Literal
  | text (value : String)
  | number (value : Binary64)
  | boolean (value : Bool)
  | instant (value : Instant)
  | guid (value : Guid)
  | null
  deriving DecidableEq

namespace Literal

def doubleQuotes : List Char → List Char
  | [] => []
  | c :: rest => if c = '\'' then '\'' :: '\'' :: doubleQuotes rest else c :: doubleQuotes rest

def quote (s : String) : String := String.ofList ('\'' :: (doubleQuotes s.toList ++ ['\'']))

def numberText (x : Binary64) : String := if x.isZero then "0" else x.text

def render : Literal → String
  | text s => quote s
  | number x => numberText x
  | boolean b => if b then "true" else "false"
  | instant t => t.secondsText
  | guid g => g.text
  | null => "null"

/-- Carries nothing to compare with: an empty text, or a number that is not finite. -/
def isBlank : Literal → Bool
  | text s => s.isEmpty
  | number x => !x.isFinite
  | _ => false

/-- Equality of values. NaN differs from itself and the two zeros are equal. -/
def same : Literal → Literal → Bool
  | number x, number y => x.same y
  | number _, _ | _, number _ => false
  | a, b => decide (a = b)

def kindName : Literal → String
  | text _ => "string"
  | number _ => "numeric"
  | boolean _ => "boolean"
  | instant _ => "date"
  | guid _ => "guid"
  | null => "null"

end Literal

end ODataQuery
