import ODataQuery.Query.Address
import ODataQuery.Envelope

/-! Exchanges: one query put to a service, from its options to the envelope of the answer. Callers look
on at three moments and may take the query over at each. What a request is and how it is carried is
left to a network. -/
namespace ODataQuery

/-- What queries need of the world: the forms of domains, requests for addresses, and what comes back
for a request, its status and its body. -/
structure Network (R : Type) where
  domains : Url.Domains
  request : Url → (headers : List (String × String)) → Except NetworkFault R
  deliver : R → Except NetworkFault (Nat × String)

/-- What callers do at the moments of a query: true takes it over. -/
structure Hooks (R : Type) where
  onRequest : R → R × Bool := fun r => (r, false)
  onResponse : Nat → String → Bool := fun _ _ => false
  onResult : Option Int → Nat → Bool := fun _ _ => false

/-- When a query is cancelled, if at all. -/
inductive Cancellation
  | never
  | beforeStart
  /-- After the start, and before the request was handed on. -/
  | beforeSend
  /-- After the request was handed on and before the body of the response was read. -/
  | beforeBody
  /-- After the body of the response was read. -/
  | afterBody
  deriving DecidableEq

/-- A moment at which callers looked on, and what they saw. -/
inductive HookCall (R : Type)
  | request (request : R)
  | response (status : Nat) (body : String)
  | result (count : Option Int) (rows : Nat)
  deriving DecidableEq

inductive ExchangeEvent (R : Type)
  | called (call : HookCall R)
  /-- The request was handed on to the server. -/
  | sent (request : R)
  deriving DecidableEq

def ExchangeEvent.call? : ExchangeEvent R → Option (HookCall R)
  | called call => some call
  | sent _ => none

/-- How an exchange went: what was seen of it, in order, and how it ended. -/
structure Exchange (R α : Type) where
  events : List (ExchangeEvent R)
  outcome : Except QueryError (Envelope α)

namespace Exchange

def calls (e : Exchange R α) : List (HookCall R) := e.events.filterMap ExchangeEvent.call?

def after (event : ExchangeEvent R) (e : Exchange R α) : Exchange R α :=
  { e with events := event :: e.events }

def isSuccess (status : Nat) : Bool := 200 ≤ status && status < 300

def finish (hooks : Hooks R) (e : Envelope α) : Exchange R α :=
  ⟨[.called (.result e.count e.size)],
    if hooks.onResult e.count e.size then .error (.handled .result) else .ok e⟩

/-- What happens to a response. Hooks see it before its status counts. -/
def receive (hooks : Hooks R) (decodeRow : Json → Except String α) (status : Nat) (body : String) :
    Exchange R α :=
  let seen : ExchangeEvent R := .called (.response status body)
  if hooks.onResponse status body then ⟨[seen], .error (.handled .response)⟩
  else if !isSuccess status then ⟨[seen], .error (.status status body)⟩
  else
    match Envelope.decode decodeRow body with
    | .error e => ⟨[seen], .error e⟩
    | .ok e => (finish hooks e).after seen

/-- Hands a request on and waits for what comes back. A cancellation goes before whatever that is,
and before the request is handed on. -/
def await (network : Network R) (hooks : Hooks R) (cancellation : Cancellation)
    (decodeRow : Json → Except String α) (request : R) : Exchange R α :=
  if cancellation = .beforeSend then ⟨[], .error .cancelled⟩
  else if cancellation = .beforeBody then ⟨[.sent request], .error .cancelled⟩
  else
    match network.deliver request with
    | .error fault => ⟨[.sent request], .error (.network fault)⟩
    | .ok (status, body) => (receive hooks decodeRow status body).after (.sent request)

def send (network : Network R) (hooks : Hooks R) (cancellation : Cancellation)
    (decodeRow : Json → Except String α) (request : R) : Exchange R α :=
  let seen : ExchangeEvent R := .called (.request request)
  let (shaped, handled) := hooks.onRequest request
  if handled then ⟨[seen], .error (.handled .request)⟩
  else (await network hooks cancellation decodeRow shaped).after seen

/-- The request of a query, which asks for JSON. -/
def requestOf (network : Network R) (root entitySet : String) (options : QueryOptions) :
    Except QueryError R :=
  match options.address network.domains root entitySet with
  | .error reason => .error (.badAddress reason)
  | .ok url => (network.request url [("accept", "application/json")]).mapError .network

/-- Puts a query to a service. -/
def run (network : Network R) (hooks : Hooks R) (cancellation : Cancellation)
    (decodeRow : Json → Except String α) (root entitySet : String) (options : QueryOptions) :
    Exchange R α :=
  if cancellation = .beforeStart then ⟨[], .error .cancelled⟩
  else
    match requestOf network root entitySet options with
    | .error e => ⟨[], .error e⟩
    | .ok request => send network hooks cancellation decodeRow request

end Exchange

end ODataQuery
