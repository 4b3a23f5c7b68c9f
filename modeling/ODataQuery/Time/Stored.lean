import ODataQuery.Time.Reader
import ODataQuery.Time.Format
import ODataQuery.Json.Shape
import ODataQuery.Text.Blank

/-! Timestamps in stored values. They are read from any of the known forms and written in one. -/
namespace ODataQuery

def Instant.toJson (t : Instant) : Json := .string t.text

namespace Time

inductive StoredFault
  | notText
  | unrecognized (text : String)
  deriving DecidableEq

def StoredFault.message : StoredFault → String
  | notText => "expected a date/time text"
  | unrecognized text => "unrecognized date/time: " ++ text

def ofJson : Json → Except StoredFault Instant
  | .string s =>
    match parse? s with
    | some t => .ok t
    | none => .error (.unrecognized s)
  | _ => .error .notText

/-- The timestamp that a value holds, if any; null and blank texts hold none. -/
def ofJsonOrNone : Json → Except StoredFault (Option Instant)
  | .null => .ok none
  | .string s => if Text.isBlankText s then .ok none else (ofJson (.string (Text.trim s))).map some
  | _ => .error .notText

end Time

end ODataQuery
