import ODataQuery.Listing.Basic
import ODataQuery.Listing.Debouncer
import ODataQuery.Listing.Notice
import ODataQuery.Query.Exchange

/-! Live lists: edits call for a reload, reloads are numbered, and of several under way only
the newest counts. A reload begins and ends in two steps, between which anything may happen. -/
namespace ODataQuery

inductive ListView (α : Type)
  | idle
  | loaded (sequence : Nat) (envelope : Envelope α)
  | failed (sequence : Nat) (error : QueryError) (message : String)

/-- A reload under way. -/
structure Reload where
  sequence : Nat
  cancelled : Bool := false
  deriving DecidableEq

inductive ReloadEnd (α : Type)
  /-- Its result does not count: a newer one has begun, or the list is gone. -/
  | stale
  | loaded (envelope : Envelope α)
  | failed (error : QueryError)

/-- A reload that begins, with the query that it puts. -/
structure Beginning where
  sequence : Nat
  query : QueryOptions

structure LiveList (α : Type) where
  entitySet : String
  serviceRoot : String
  resolver : Resolver := {}
  localizer : Localizer := {}
  /-- Milliseconds that edits wait for more edits. -/
  delay : Nat := 100
  asked : Listing := {}
  /-- The number of the last reload that began. -/
  sequence : Nat := 0
  /-- The reload that is cancelled when another one begins. -/
  inFlight : Option Nat := none
  running : List Reload := []
  current : ListView α := .idle
  disposed : Bool := false
  debouncer : Debouncer Unit := {}

namespace LiveList

abbrev Edited (α : Type) := LiveList α × List Notice

def cancelRunning (sequence : Option Nat) (running : List Reload) : List Reload :=
  running.map fun r => if some r.sequence = sequence then { r with cancelled := true } else r

/-- Begins a reload under the next number; the one before is cancelled. Nothing begins once the list is
gone. -/
def beginReload (c : LiveList α) : LiveList α × Option Nat :=
  if c.disposed then (c, none)
  else
    let sequence := c.sequence + 1
    ({ c with
       sequence
       inFlight := some sequence
       running := cancelRunning c.inFlight c.running ++ [⟨sequence, false⟩] },
     some sequence)

def options (c : LiveList α) (now : Instant) : QueryOptions := c.asked.options now c.resolver

/-- Begins a reload with the query for what is asked now. -/
def startReload (c : LiveList α) (now : Instant) : LiveList α × Option Beginning :=
  let (begun, sequence) := c.beginReload
  (begun, sequence.map fun sequence => ⟨sequence, begun.options now⟩)

def publish (c : LiveList α) (sequence : Nat) (result : Except QueryError (Envelope α)) :
    Edited α :=
  match result with
  | .ok e =>
    ({ c with current := .loaded sequence e }, [.dataBound c.entitySet e.count e.size])
  | .error error =>
    if error.isSilent then (c, [])
    else ({ c with current := .failed sequence error (error.localized c.localizer) }, [])

def endReload (c : LiveList α) (sequence : Nat) (result : Except QueryError (Envelope α)) :
    Edited α × ReloadEnd α :=
  let settled := { c with running := c.running.filter (·.sequence ≠ sequence) }
  if c.sequence ≠ sequence ∨ c.disposed then ((settled, []), .stale)
  else
    let freed := { settled with inFlight := c.inFlight.filter (· ≠ sequence) }
    (publish freed sequence result,
     match result with
     | .ok e => .loaded e
     | .error error => .failed error)

def schedule (c : LiveList α) (delay : Nat) : LiveList α :=
  { c with debouncer := c.debouncer.call delay [((), 0)] }

def scheduleReload (c : LiveList α) : LiveList α := c.schedule c.delay

def trigger (c : LiveList α) (urgent : Bool) : LiveList α :=
  if urgent then c.schedule 0 else c.scheduleReload

/-- What follows every change of the filters: the first page, a notice and a reload. -/
def filtersChanged (c : LiveList α) (urgent : Bool) : Edited α :=
  ({ c with asked := c.asked.rewound }.trigger urgent,
   [.filtersChanged c.entitySet (c.asked.filters.filters.map (·.id))])

def withFilters (c : LiveList α) (filters : Collection) : LiveList α :=
  { c with asked := { c.asked with filters } }

def addFilter (c : LiveList α) (f : Filter) : Edited α :=
  (c.withFilters (c.asked.filters.add f)).filtersChanged f.immediate

/-- Changes a filter; `none` when there is no such filter. -/
def updateFilter (c : LiveList α) (id : Guid) (change : Filter → Filter) : Option (Edited α) :=
  (c.asked.filters.get? id).map fun f =>
    (c.withFilters (c.asked.filters.modify id change)).filtersChanged (change f).immediate

/-- Takes out a filter; `none` when there is no such filter. -/
def removeFilter (c : LiveList α) (id : Guid) : Option (Filter × Edited α) :=
  (c.asked.filters.get? id).map fun f =>
    (f, (c.withFilters (c.asked.filters.remove id)).filtersChanged f.immediate)

def clearFilters (c : LiveList α) : Edited α :=
  (c.withFilters c.asked.filters.clear).filtersChanged false

def setCombinator (c : LiveList α) (combinator : Combinator) : Edited α :=
  (c.withFilters (c.asked.filters.withCombinator combinator)).filtersChanged false

def setSorts (c : LiveList α) (sorts : List SortKey) : LiveList α :=
  { c with asked := { c.asked with sorts } }.scheduleReload

def setPage (c : LiveList α) (page : Nat) : LiveList α :=
  { c with asked := { c.asked with page } }.trigger true

def setPageSize (c : LiveList α) (pageSize : Option Nat) : LiveList α :=
  { c with asked := { c.asked.rewound with pageSize } }.trigger true

/-- Ends the list: nothing begins and nothing is shown from here on. -/
def dispose (c : LiveList α) : LiveList α :=
  { c with
    debouncer := c.debouncer.dispose
    disposed := true
    inFlight := none
    running := cancelRunning c.inFlight c.running }

/-- Wakes the debouncer and says how many reloads are to begin. -/
def wake (c : LiveList α) : LiveList α × Nat :=
  let (debouncer, begun) := c.debouncer.wake
  ({ c with debouncer }, begun.length)

def tick (c : LiveList α) : LiveList α := { c with debouncer := c.debouncer.tick }

end LiveList

end ODataQuery
