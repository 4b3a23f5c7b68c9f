import ODataQuery.Listing.Live

/-! Sessions: a live list whose queries are answered at once, and what it did since it was last looked
at. Work that is due is done within the millisecond. -/
namespace ODataQuery

structure Surroundings (R α : Type) where
  now : Instant
  network : Network R
  /-- The hooks of the request with a number. -/
  hooks : Nat → Hooks R
  decodeRow : Json → Except String α

structure ListSession (R α : Type) where
  list : LiveList α
  /-- How many requests callers have seen. -/
  requests : Nat := 0
  calls : List (HookCall R) := []
  notices : List Notice := []
  /-- Whether something new is shown. -/
  shown : Bool := false

namespace ListSession

def looked (s : ListSession R α) : ListSession R α :=
  { s with calls := [], notices := [], shown := false }

def withList (s : ListSession R α) (list : LiveList α) : ListSession R α :=
  { s with list }

def post (s : ListSession R α) (edited : LiveList.Edited α) : ListSession R α :=
  { s with list := edited.1, notices := s.notices ++ edited.2 }

def isShown : ReloadEnd α → Bool
  | .stale => false
  | .loaded _ => true
  | .failed e => !e.isSilent

/-- Reloads the list: the query of the reload is put to the service and answered before it ends. -/
def reload (around : Surroundings R α) (s : ListSession R α) : ListSession R α × ReloadEnd α :=
  match s.list.startReload around.now with
  | (c, none) => (s.withList c, .stale)
  | (c, some b) =>
    let exchange :=
      Exchange.run around.network (around.hooks s.requests) .never around.decodeRow c.serviceRoot
        c.entitySet b.query
    let (edited, answer) := c.endReload b.sequence exchange.outcome
    ({ s.post edited with
       requests := s.requests + (if exchange.calls.isEmpty then 0 else 1)
       calls := s.calls ++ exchange.calls
       shown := s.shown || isShown answer }, answer)

def reloadTimes (around : Surroundings R α) : Nat → ListSession R α → ListSession R α
  | 0, s => s
  | n + 1, s => reloadTimes around n (s.reload around).1

/-- Does what is due. -/
def settle (around : Surroundings R α) (s : ListSession R α) : ListSession R α :=
  let (list, due) := s.list.wake
  reloadTimes around due (s.withList list)

def advance (around : Surroundings R α) : Nat → ListSession R α → ListSession R α
  | 0, s => s
  | n + 1, s => advance around n ((s.withList s.list.tick).settle around)

end ListSession

end ODataQuery
