import ODataQuery.Proofs.Listing.Run
import ODataQuery.Proofs.Listing.Waking

/-! Lists that take turns with their users and their timers. An edit is one turn, a task that wakes
is one together with the reload that it begins, and so is the end of a reload; the turns come in any
order. A reload puts the query for what is asked as it begins. -/
namespace ODataQuery.LiveList

variable {R α : Type}

/-- Whether a change edits what the list asks for. One for a filter that is not there does not. -/
def Change.edits (c : LiveList α) : Change → Bool
  | updateFilter id edit => (c.updateFilter id edit).isSome
  | removeFilter id => (c.removeFilter id).isSome
  | scheduleReload | tick | wake => false
  | _ => true

/-- A query is for what is asked at an instant: all filters and sorts, and the one page. -/
structure Asks (asked : Listing) (resolver : Resolver) (now : Instant) (q : QueryOptions) : Prop where
  filter : q.filter = (Compiler.mk now (some resolver)).compile asked.filters
  orderBy : q.orderBy = SortKey.compile (some resolver) asked.sorts
  top : q.top = asked.pageSize
  /-- Only a page of limited size has rows in front of it; they are counted in 32 bits. -/
  skip : q.skip = asked.pageSize.map fun size => min (asked.page * size) 4294967295
  count : q.count = asked.count
  expand : q.expand = asked.expand

theorem asks_options (asked : Listing) (resolver : Resolver) (now : Instant) :
    Asks asked resolver now (asked.options now resolver) :=
  ⟨rfl, rfl, rfl, rfl, rfl, rfl⟩

inductive Act (α : Type)
  | changed (change : Change) (edits : Bool)
  | lapsed
  | began (now : Instant) (beginning : Option Beginning)
  | ended (e : Completion α)
  | disposed

namespace Act

def isEdit : Act α → Bool
  | changed _ edits => edits
  | _ => false

def beginning? : Act α → Option (Instant × Beginning)
  | began now beginning => beginning.map (now, ·)
  | _ => none

end Act

inductive Turn (c : LiveList α) : Act α → LiveList α → Prop
  /-- Tasks wake in turns of their own. -/
  | change (change : Change) (alone : change ≠ .wake) :
      Turn c (.changed change (change.edits c)) (change.apply c).1
  /-- A superseded task wakes. -/
  | lapse {t : Debouncer.Task Unit} {debouncer : Debouncer Unit}
      (wakes : c.debouncer.Wakes t [] debouncer) : Turn c .lapsed { c with debouncer }
  /-- The newest task wakes, and its reload begins. -/
  | fire {t : Debouncer.Task Unit} {debouncer : Debouncer Unit}
      (wakes : c.debouncer.Wakes t [()] debouncer) (now : Instant) :
      Turn c (.began now ({ c with debouncer }.startReload now).2)
        ({ c with debouncer }.startReload now).1
  | reload (now : Instant) : Turn c (.began now (c.startReload now).2) (c.startReload now).1
  | finish {r : Reload} (running : r ∈ c.running) (result : Except QueryError (Envelope α)) :
      Turn c (.ended (c.complete r.sequence result).2) (c.complete r.sequence result).1
  | dispose : Turn c .disposed c.dispose

inductive Turns (start : LiveList α) : List (Act α) → LiveList α → Prop
  | start : Turns start [] start
  | more {acts : List (Act α)} {c d : LiveList α} {a : Act α} :
      Turns start acts c → Turn c a d → Turns start (acts ++ [a]) d

theorem Turns.trans {start c d : LiveList α} {first second : List (Act α)}
    (turns : Turns start first c) (further : Turns c second d) :
    Turns start (first ++ second) d := by
  induction further with
  | start => simpa using turns
  | more _ turn ih =>
    rw [← List.append_assoc]
    exact ih.more turn

/-- Lists that ask for the same, after the same calls for reloads. -/
structure SameAsked (c d : LiveList α) : Prop where
  asked : d.asked = c.asked
  resolver : d.resolver = c.resolver
  delay : d.delay = c.delay
  debouncer : d.debouncer = c.debouncer

theorem sameAsked_beginReload (c : LiveList α) : SameAsked c c.beginReload.1 := by
  unfold beginReload
  split <;> exact ⟨rfl, rfl, rfl, rfl⟩

theorem mem_running_startReload {c d : LiveList α} {now : Instant} {b : Beginning}
    (started : c.startReload now = (d, some b)) : ⟨b.sequence, false⟩ ∈ d.running := by
  cases gone : c.disposed with
  | true => simp [startReload, beginReload, gone] at started
  | false =>
    simp only [startReload, beginReload, gone, Bool.false_eq_true, if_false, Option.map_some,
      Prod.mk.injEq, Option.some.injEq] at started
    obtain ⟨rfl, rfl⟩ := started
    exact List.mem_append_right _ (List.mem_singleton_self _)

theorem sameAsked_complete (c : LiveList α) (sequence : Nat)
    (result : Except QueryError (Envelope α)) : SameAsked c (c.complete sequence result).1 := by
  unfold complete endReload
  by_cases stale : c.sequence ≠ sequence ∨ c.disposed = true
  · rw [if_pos stale]
    exact ⟨rfl, rfl, rfl, rfl⟩
  rw [if_neg stale]
  cases result with
  | ok rows => exact ⟨rfl, rfl, rfl, rfl⟩
  | error error =>
    cases silent : error.isSilent <;> simp only [publish, silent] <;> exact ⟨rfl, rfl, rfl, rfl⟩

theorem startReload_fst (c : LiveList α) (now : Instant) :
    (c.startReload now).1 = c.beginReload.1 :=
  rfl

theorem startReload_live {c : LiveList α} (live : c.disposed = false) (now : Instant) :
    ∃ q, (c.startReload now).2 = some ⟨c.sequence + 1, q⟩ ∧ Asks c.asked c.resolver now q := by
  refine ⟨c.options now, ?_, asks_options _ _ _⟩
  simp [startReload, beginReload, live, options]

theorem sequence_startReload {c : LiveList α} (live : c.disposed = false) (now : Instant) :
    (c.startReload now).1.sequence = c.sequence + 1 := by
  simp [startReload, beginReload, live]

/-- Every edit calls for a reload once it has changed what is asked for, and waits no longer than
the list's delay. Nothing else changes what is asked for. -/
theorem Change.apply_cases (c : LiveList α) {change : Change} (alone : change ≠ .wake) :
    (∃ asked delay, delay ≤ c.delay ∧ (change.edits c = false → asked = c.asked) ∧
      (change.apply c).1 = { c with asked }.schedule delay) ∨
    change.edits c = false ∧ ((change.apply c).1 = c.tick ∨ (change.apply c).1 = c) := by
  have triggers (asked : Listing) (urgent edits : Bool) (edited : edits = true) :
      ∃ a delay, delay ≤ c.delay ∧ (edits = false → a = c.asked) ∧
        { c with asked }.trigger urgent = { c with asked := a }.schedule delay := by
    refine ⟨asked, if urgent then 0 else c.delay, ?_, by simp [edited], ?_⟩
    · cases urgent <;> simp
    · cases urgent <;> rfl
  cases change with
  | addFilter f => exact .inl (triggers _ _ _ rfl)
  | updateFilter id edit =>
    simp only [apply, edits, LiveList.updateFilter]
    cases c.asked.filters.get? id with
    | none => exact .inr ⟨rfl, .inr rfl⟩
    | some f => exact .inl (triggers _ _ _ rfl)
  | removeFilter id =>
    simp only [apply, edits, LiveList.removeFilter]
    cases c.asked.filters.get? id with
    | none => exact .inr ⟨rfl, .inr rfl⟩
    | some f => exact .inl (triggers _ _ _ rfl)
  | clearFilters => exact .inl (triggers _ false _ rfl)
  | setCombinator combinator => exact .inl (triggers _ false _ rfl)
  | setSorts sorts => exact .inl (triggers _ false _ rfl)
  | setPage page => exact .inl (triggers _ true _ rfl)
  | setPageSize pageSize => exact .inl (triggers _ true _ rfl)
  | scheduleReload => exact .inl ⟨c.asked, c.delay, Nat.le_refl _, fun _ => rfl, rfl⟩
  | tick => exact .inr ⟨rfl, .inl rfl⟩
  | wake => exact absurd rfl alone

/-- Tasks wait one step each and no longer than the delay, and the debouncer ends with the list. -/
structure Paced (c : LiveList α) : Prop where
  queued : c.debouncer.Queued
  disposed : c.debouncer.disposed = c.disposed
  prompt : ∀ t ∈ c.debouncer.tasks, t.due ≤ c.debouncer.now + c.delay

theorem paced_fresh {c : LiveList α} (fresh : c.Fresh) (debouncer : c.debouncer = {}) :
    c.Paced where
  queued := debouncer ▸ Debouncer.queued_empty
  disposed := by rw [debouncer, fresh.disposed]
  prompt := by simp [debouncer]

theorem Paced.same {c d : LiveList α} (paced : c.Paced) (same : SameAsked c d)
    (disposed : d.disposed = c.disposed) : d.Paced where
  queued := same.debouncer ▸ paced.queued
  disposed := by rw [same.debouncer, disposed, paced.disposed]
  prompt := by
    rw [same.debouncer, same.delay]
    exact paced.prompt

theorem Paced.schedule {c : LiveList α} (paced : c.Paced) {delay : Nat} (bound : delay ≤ c.delay)
    (asked : Listing) : ({ c with asked }.schedule delay).Paced where
  queued := paced.queued.call delay ()
  disposed := (c.debouncer.call_disposed delay _).trans paced.disposed
  prompt := by
    intro t member
    simp only [LiveList.schedule, Debouncer.call_now]
    rcases Debouncer.mem_call member with old | ⟨-, rfl⟩
    · exact paced.prompt t old
    · exact Nat.add_le_add_left bound _

theorem Paced.woken {c : LiveList α} (paced : c.Paced) {t : Debouncer.Task Unit} {done : List Unit}
    {debouncer : Debouncer Unit} (wakes : c.debouncer.Wakes t done debouncer) :
    { c with debouncer }.Paced := by
  have queued := paced.queued.woken wakes
  obtain ⟨before, after, split, rfl, -⟩ := paced.queued.wakes wakes
  refine ⟨queued, paced.disposed, ?_⟩
  intro u member
  refine paced.prompt u ?_
  rw [split]
  exact (List.sublist_cons_self t after).append_left before |>.subset member

theorem beginReload_disposed (c : LiveList α) : c.beginReload.1.disposed = c.disposed := by
  unfold beginReload
  split <;> rfl

theorem paced_turn {c d : LiveList α} {a : Act α} (paced : c.Paced) (turn : Turn c a d) :
    d.Paced := by
  cases turn with
  | change change alone =>
    rcases change.apply_cases c alone with ⟨asked, delay, bound, -, same⟩ | ⟨-, same | same⟩
    · rw [same]
      exact paced.schedule bound asked
    · rw [same]
      refine ⟨paced.queued.sublist (List.Sublist.refl _) rfl rfl, paced.disposed, ?_⟩
      intro t member
      have bound := paced.prompt t member
      simp only [tick, Debouncer.tick]
      omega
    · rw [same]
      exact paced
  | lapse wakes => exact paced.woken wakes
  | fire wakes now =>
    exact (paced.woken wakes).same (sameAsked_beginReload _) (beginReload_disposed _)
  | reload now => exact paced.same (sameAsked_beginReload c) (beginReload_disposed c)
  | finish running result =>
    exact paced.same (sameAsked_complete c _ result) (settles_complete c _ result).disposed
  | dispose =>
    refine ⟨paced.queued.dispose, rfl, ?_⟩
    intro t member
    exact paced.prompt t (List.mem_of_mem_filter member)

theorem paced_turns {start c : LiveList α} {acts : List (Act α)} (paced : start.Paced)
    (turns : Turns start acts c) : c.Paced := by
  induction turns with
  | start => exact paced
  | more _ turn ih => exact paced_turn ih turn

/-- Superseded tasks that are due wake one after the other. -/
theorem turns_lapse {c : LiveList α} (paced : c.Paced) (idle : c.debouncer.wake.2 = []) :
    ∃ acts, Turns c acts c.wake.1 := by
  induction size : c.debouncer.tasks.length using Nat.strongRecOn generalizing c with
  | _ size ih =>
  by_cases some : ∃ t ∈ c.debouncer.tasks, t.isDue c.debouncer.now = true
  case neg =>
    push Not at some
    have still : c.debouncer.wake.1 = c.debouncer := by
      have kept : c.debouncer.tasks.filter (fun t => !t.isDue c.debouncer.now) =
          c.debouncer.tasks := List.filter_eq_self.mpr (by simpa using some)
      rw [paced.queued.wake_eq, kept]
    refine ⟨[], ?_⟩
    simp only [wake, still]
    exact .start
  case pos =>
    obtain ⟨t, member, due⟩ := some
    obtain ⟨before, after, split⟩ := List.append_of_mem member
    have wakes := Debouncer.Wakes.of split due
    obtain ⟨same, together⟩ := paced.queued.wake_after wakes
    rw [idle] at together
    obtain ⟨nothing, rest⟩ := List.append_eq_nil_iff.mp together.nil_eq.symm
    have fewer := paced.queued.fewer wakes
    rw [size] at fewer
    have woken := paced.woken wakes
    rw [nothing] at wakes
    obtain ⟨acts, further⟩ := ih _ fewer woken rest rfl
    simp only [wake, same] at further
    exact ⟨_, (Turns.start.more (.lapse wakes)).trans further⟩

theorem wake_beginReload (c : LiveList α) : c.beginReload.1.wake.1 = c.wake.1.beginReload.1 := by
  by_cases gone : c.disposed = true <;> simp [beginReload, wake, gone]

/-- A session begins a reload and puts a query for what is asked: its callers see the exchange. -/
structure Puts (around : Surroundings R α) (s after : ListSession R α) (q : QueryOptions) : Prop where
  asks : Asks s.list.asked s.list.resolver around.now q
  sequence : after.list.sequence = s.list.sequence + 1
  calls : after.calls = s.calls ++ (Exchange.run around.network (around.hooks s.requests) .never
    around.decodeRow s.list.serviceRoot s.list.entitySet q).calls

theorem sequence_endReload (c : LiveList α) (sequence : Nat)
    (result : Except QueryError (Envelope α)) :
    (c.endReload sequence result).1.1.sequence = c.sequence :=
  (settles_complete c sequence result).sequence

theorem puts_reload (around : Surroundings R α) {s : ListSession R α} (live : s.list.disposed = false) :
    ∃ q, (s.list.startReload around.now).2 = some ⟨s.list.sequence + 1, q⟩ ∧
      Puts around s (s.reload around).1 q := by
  refine ⟨s.list.options around.now, ?_, asks_options _ _ _, ?_, ?_⟩ <;>
    simp [ListSession.reload, startReload, beginReload, live, ListSession.post, options,
      sequence_endReload]

theorem list_reload (around : Surroundings R α) {s : ListSession R α} {c : LiveList α} {b : Beginning}
    (started : s.list.startReload around.now = (c, some b)) :
    ∃ result, (s.reload around).1.list = (c.complete b.sequence result).1 := by
  simp only [ListSession.reload, started, ListSession.post, complete]
  exact ⟨_, rfl⟩

/-- A reload of a session ends as soon as it has begun. -/
theorem turns_reload (around : Surroundings R α) (s : ListSession R α) :
    ∃ acts, Turns (s.list.startReload around.now).1 acts (s.reload around).1.list := by
  cases started : s.list.startReload around.now with
  | mk c beginning =>
    cases beginning with
    | none =>
      simp only [ListSession.reload, started]
      exact ⟨[], .start⟩
    | some b =>
      obtain ⟨result, ends⟩ := list_reload around started
      have running := mem_running_startReload started
      rw [ends]
      exact ⟨_, Turns.start.more (.finish running result)⟩

theorem turns_settle (around : Surroundings R α) {s : ListSession R α} (paced : s.list.Paced) :
    ∃ acts, Turns s.list acts (s.settle around).list := by
  by_cases idle : s.list.debouncer.wake.2 = []
  · obtain ⟨acts, turns⟩ := turns_lapse paced idle
    refine ⟨acts, ?_⟩
    simpa [ListSession.settle, wake, idle, ListSession.reloadTimes, ListSession.withList]
      using turns
  -- in turns the reload begins as the newest task wakes, in a session once all tasks are awake
  obtain ⟨t, debouncer, a, wakes, rest, works⟩ := paced.queued.exists_wakes idle
  have fires := Turn.fire wakes around.now
  have later := paced_turn paced fires
  have same : ({ s.list with debouncer }.startReload around.now).1.debouncer = debouncer :=
    (sameAsked_beginReload _).debouncer
  obtain ⟨acts, lapses⟩ := turns_lapse later (by rw [same, rest])
  obtain ⟨more, further⟩ := turns_reload around (s.withList s.list.wake.1)
  have meets : ({ s.list with debouncer }.startReload around.now).1.wake.1 =
      ((s.withList s.list.wake.1).list.startReload around.now).1 := by
    refine (wake_beginReload { s.list with debouncer }).trans ?_
    simp only [wake, rest, ListSession.withList, startReload_fst]
  rw [meets] at lapses
  have settled : s.settle around = ((s.withList s.list.wake.1).reload around).1 := by
    simp [ListSession.settle, wake, works, ListSession.reloadTimes, ListSession.withList]
  rw [settled]
  exact ⟨_, ((Turns.start.more fires).trans lapses).trans further⟩

/-- What a session does as time passes is done in turns. -/
theorem turns_advance (around : Surroundings R α) (n : Nat) {s : ListSession R α}
    (paced : s.list.Paced) : ∃ acts, Turns s.list acts (s.advance around n).list := by
  induction n generalizing s with
  | zero => exact ⟨[], .start⟩
  | succ n ih =>
    have ticked : Turn s.list _ s.list.tick := .change .tick (by simp)
    have later : (s.withList s.list.tick).list.Paced := paced_turn paced ticked
    obtain ⟨acts, settled⟩ := turns_settle around later
    obtain ⟨more, further⟩ := ih (paced_turns later settled)
    exact ⟨_, ((Turns.start.more ticked).trans settled).trans further⟩

end ODataQuery.LiveList
