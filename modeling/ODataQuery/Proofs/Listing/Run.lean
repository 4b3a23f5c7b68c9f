import Mathlib.Data.List.Basic
import ODataQuery.Listing.Session

/-! Runs of live lists. A run is a history of events that may come in any order: edits, the passing
of time, reloads that begin, reloads under way that end with whatever result, and disposal. The
history determines the state of the reloads. -/
namespace ODataQuery.LiveList

variable {α : Type}

/-- What users and time do to a list. Reloads that a waking debouncer calls for begin as events of
their own. -/
inductive Change
  | addFilter (f : Filter)
  | updateFilter (id : Guid) (edit : Filter → Filter)
  | removeFilter (id : Guid)
  | clearFilters
  | setCombinator (combinator : Combinator)
  | setSorts (sorts : List SortKey)
  | setPage (page : Nat)
  | setPageSize (pageSize : Option Nat)
  | scheduleReload
  | tick
  | wake

def Change.apply (c : LiveList α) : Change → Edited α
  | addFilter f => c.addFilter f
  | updateFilter id edit => (c.updateFilter id edit).getD (c, [])
  | removeFilter id => ((c.removeFilter id).map Prod.snd).getD (c, [])
  | clearFilters => c.clearFilters
  | setCombinator combinator => c.setCombinator combinator
  | setSorts sorts => (c.setSorts sorts, [])
  | setPage page => (c.setPage page, [])
  | setPageSize pageSize => (c.setPageSize pageSize, [])
  | scheduleReload => (c.scheduleReload, [])
  | tick => (c.tick, [])
  | wake => (c.wake.1, [])

/-- The end of a reload: what its query gave, what its caller is told, and what is published. -/
structure Completion (α : Type) where
  sequence : Nat
  result : Except QueryError (Envelope α)
  answer : ReloadEnd α
  update : Option (ListView α)
  notices : List Notice

def complete (c : LiveList α) (sequence : Nat) (result : Except QueryError (Envelope α)) :
    LiveList α × Completion α :=
  let ((after, notices), answer) := c.endReload sequence result
  let update := if ListSession.isShown answer then some after.current else none
  (after, ⟨sequence, result, answer, update, notices⟩)

inductive Event (α : Type)
  | changed (change : Change) (notices : List Notice)
  | began (sequence : Option Nat)
  | ended (e : Completion α)
  | disposed

namespace Event

def notices : Event α → List Notice
  | changed _ notices => notices
  | ended e => e.notices
  | _ => []

def update? : Event α → Option (ListView α)
  | ended e => e.update
  | _ => none

def began? : Event α → Option Nat
  | began sequence => sequence
  | _ => none

def ended? : Event α → Option Nat
  | ended e => some e.sequence
  | _ => none

end Event

def begun (events : List (Event α)) : List Nat := events.filterMap Event.began?

def ended (events : List (Event α)) : List Nat := events.filterMap Event.ended?

def updates (events : List (Event α)) : List (ListView α) := events.filterMap Event.update?

def notices (events : List (Event α)) : List Notice := events.flatMap Event.notices

inductive Step (c : LiveList α) : Event α → LiveList α → Prop
  | change (change : Change) : Step c (.changed change (change.apply c).2) (change.apply c).1
  | begin : Step c (.began c.beginReload.2) c.beginReload.1
  | finish {r : Reload} (running : r ∈ c.running) (result : Except QueryError (Envelope α)) :
      Step c (.ended (c.complete r.sequence result).2) (c.complete r.sequence result).1
  | dispose : Step c .disposed c.dispose

inductive Run (start : LiveList α) : List (Event α) → LiveList α → Prop
  | start : Run start [] start
  | more {events : List (Event α)} {c d : LiveList α} {e : Event α} :
      Run start events c → Step c e d → Run start (events ++ [e]) d

/-- What holds of every event of a history, with the events before it. -/
def Throughout (P : List (Event α) → Event α → Prop) (events : List (Event α)) : Prop :=
  ∀ before e after, events = before ++ e :: after → P before e

theorem throughout_nil (P : List (Event α) → Event α → Prop) : Throughout P [] := by
  intro before e after split
  simp at split

theorem throughout_concat {P : List (Event α) → Event α → Prop} {events : List (Event α)}
    {e : Event α} : Throughout P (events ++ [e]) ↔ Throughout P events ∧ P events e := by
  constructor
  · intro each
    refine ⟨?_, each events e [] rfl⟩
    intro before x after split
    exact each before x (after ++ [e]) (by simp [split])
  · rintro ⟨each, last⟩ before x after split
    rcases List.eq_nil_or_concat after with rfl | ⟨front, y, rfl⟩
    · obtain ⟨rfl, same⟩ := List.append_inj' split rfl
      cases same
      exact last
    · have whole : events ++ [e] = (before ++ x :: front) ++ [y] := by simpa using split
      exact each before x front (List.append_inj' whole rfl).1

structure Fresh (c : LiveList α) : Prop where
  sequence : c.sequence = 0
  running : c.running = []
  inFlight : c.inFlight = none
  current : c.current = .idle
  disposed : c.disposed = false

structure SameReloads (c d : LiveList α) : Prop where
  entitySet : d.entitySet = c.entitySet
  localizer : d.localizer = c.localizer
  sequence : d.sequence = c.sequence
  inFlight : d.inFlight = c.inFlight
  running : d.running = c.running
  current : d.current = c.current
  disposed : d.disposed = c.disposed

/-- An edit that touches no reload, and announces at most that the filters changed. -/
structure Announces (c : LiveList α) (edited : Edited α) : Prop where
  same : SameReloads c edited.1
  notices : ∀ n ∈ edited.2, ∃ ids, n = .filtersChanged c.entitySet ids

theorem announces_nothing {c d : LiveList α} (same : SameReloads c d) : c.Announces (d, []) :=
  ⟨same, by simp⟩

theorem announces_filtersChanged (c : LiveList α) (filters : Collection) (urgent : Bool) :
    c.Announces ((c.withFilters filters).filtersChanged urgent) := by
  refine ⟨?_, ?_⟩
  · cases urgent <;> exact ⟨rfl, rfl, rfl, rfl, rfl, rfl, rfl⟩
  · intro n member
    rw [List.mem_singleton.mp member]
    exact ⟨_, rfl⟩

theorem Change.announces (c : LiveList α) (change : Change) : c.Announces (change.apply c) := by
  have unchanged : c.Announces (c, []) := announces_nothing ⟨rfl, rfl, rfl, rfl, rfl, rfl, rfl⟩
  cases change with
  | addFilter f => exact announces_filtersChanged c _ _
  | updateFilter id edit =>
    simp only [apply, LiveList.updateFilter]
    cases c.asked.filters.get? id with
    | none => exact unchanged
    | some f => exact announces_filtersChanged c _ _
  | removeFilter id =>
    simp only [apply, LiveList.removeFilter]
    cases c.asked.filters.get? id with
    | none => exact unchanged
    | some f => exact announces_filtersChanged c _ _
  | clearFilters => exact announces_filtersChanged c _ _
  | setCombinator combinator => exact announces_filtersChanged c _ _
  | _ => exact announces_nothing ⟨rfl, rfl, rfl, rfl, rfl, rfl, rfl⟩

theorem sequence_of_mem_cancelRunning {sequence : Option Nat} {running : List Reload} {r : Reload}
    (member : r ∈ cancelRunning sequence running) : ∃ q ∈ running, r.sequence = q.sequence := by
  obtain ⟨q, before, rfl⟩ := List.mem_map.mp member
  refine ⟨q, before, ?_⟩
  split <;> rfl

/-- The end of a reload takes it off, and shows at most what it publishes. -/
structure Settles (c d : LiveList α) (e : Completion α) : Prop where
  entitySet : d.entitySet = c.entitySet
  localizer : d.localizer = c.localizer
  sequence : d.sequence = c.sequence
  disposed : d.disposed = c.disposed
  running : d.running = c.running.filter (·.sequence ≠ e.sequence)
  current : d.current = e.update.getD c.current

theorem settles_complete (c : LiveList α) (sequence : Nat)
    (result : Except QueryError (Envelope α)) :
    Settles c (c.complete sequence result).1 (c.complete sequence result).2 := by
  unfold complete endReload
  by_cases stale : c.sequence ≠ sequence ∨ c.disposed = true
  · rw [if_pos stale]
    exact ⟨rfl, rfl, rfl, rfl, rfl, rfl⟩
  rw [if_neg stale]
  cases result with
  | ok rows => exact ⟨rfl, rfl, rfl, rfl, rfl, rfl⟩
  | error error =>
    cases silent : error.isSilent <;> simp only [publish, silent, ListSession.isShown] <;>
      exact ⟨rfl, rfl, rfl, rfl, rfl, rfl⟩

end ODataQuery.LiveList
