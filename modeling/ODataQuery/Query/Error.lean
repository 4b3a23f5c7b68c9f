import ODataQuery.Json.Printer
import ODataQuery.Localizer

/-! Why a query gives no rows: the causes, their messages, and the texts shown to users. -/
namespace ODataQuery

/-- The moments of a query at which a hook may take it over. -/
inductive HookStage
  | request
  | response
  | result
  deriving DecidableEq

def HookStage.name : HookStage → String
  | request => "request"
  | response => "response"
  | result => "result"

inductive BodyFault
  | unreadable
  | notAnObject
  | badCount (count : Json)
  | noRows
  /-- A decoder of rows refused, with its reason. -/
  | badRows (reason : String)

def BodyFault.message : BodyFault → String
  | unreadable => "expected a JSON text"
  | notAnObject => "expected a JSON object"
  | badCount count => "invalid count: " ++ count.compact
  | noRows => "missing value array"
  | badRows reason => reason

/-- Why a request did not bring a response, as the transport tells it. -/
structure NetworkFault where
  message : String
  /-- The status that the fault is about, if there was one. -/
  statusCode? : Option Nat := none
  deriving DecidableEq

inductive QueryError
  | status (code : Nat) (body : String)
  | badBody (body : String) (fault : BodyFault)
  | noCount
  | network (fault : NetworkFault)
  | badAddress (reason : String)
  | cancelled
  | handled (stage : HookStage)

namespace QueryError

def natText (n : Nat) : String := String.ofList (digitsOf n)

def message : QueryError → String
  | status code _ => "data read failed with HTTP status " ++ natText code
  | badBody _ fault => "could not parse response body: " ++ fault.message
  | noCount => "response envelope has no count"
  | network fault => "network error: " ++ fault.message
  | badAddress reason => "invalid query url: " ++ reason
  | cancelled => "query was cancelled"
  | handled stage => "query handled by " ++ stage.name ++ " hook"

def key : QueryError → String
  | status _ _ => "DataReadStatusError"
  | badBody _ _ => "DataParseError"
  | noCount => "DataReadEmptyError"
  | network _ | badAddress _ => "DataReadNetworkError"
  | cancelled | handled _ => "DataReadCancelled"

def args : QueryError → List String
  | status code _ => [natText code]
  | badBody body _ => [body]
  | network fault => [fault.message]
  | badAddress reason => [reason]
  | noCount | cancelled | handled _ => []

def localized (e : QueryError) (l : Localizer) : String := l.text e.key e.args

def statusCode? : QueryError → Option Nat
  | status code _ => some code
  | network fault => fault.statusCode?
  | _ => none

/-- Whether the query ended by intent, so that nothing has to be reported. -/
def isSilent : QueryError → Bool
  | cancelled | handled _ => true
  | _ => false

end QueryError

end ODataQuery
