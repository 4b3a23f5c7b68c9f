import ODataQuery.Proofs.Listing.Debouncing
import ODataQuery.Proofs.Listing.Publication
import ODataQuery.Proofs.Listing.Turn

/-! Urgent edits. The reload that one of them calls for waits for nothing but its turn. Like any other
it is given up when a newer reload is called for before it begins, however long that one waits. -/
namespace ODataQuery.LiveList

open Debouncer (Undisturbed started)

variable {α : Type}

def Change.delay? (c : LiveList α) : Change → Option Nat
  | addFilter f => some (if f.immediate then 0 else c.delay)
  | updateFilter id edit =>
    (c.asked.filters.get? id).map fun f => if (edit f).immediate then 0 else c.delay
  | removeFilter id => (c.asked.filters.get? id).map fun f => if f.immediate then 0 else c.delay
  | clearFilters | setCombinator _ | setSorts _ | scheduleReload => some c.delay
  | setPage _ | setPageSize _ => some 0
  | tick | wake => none

def Change.event? (c : LiveList α) : Change → Option (Debouncer.Event Unit)
  | tick => some .passed
  | change => (change.delay? c).map fun delay =>
      .called (if c.debouncer.disposed then none else some (c.debouncer.generation + 1)) delay
        [((), 0)]

/-- Edits that take effect without delay. A filter is marked as the edit leaves it, and as it was
when it is taken out. -/
inductive Urgent (c : LiveList α) : Change → Prop
  | add {f : Filter} (immediate : f.immediate = true) : Urgent c (.addFilter f)
  | update {id : Guid} {edit : Filter → Filter} {f : Filter}
      (found : c.asked.filters.get? id = some f) (immediate : (edit f).immediate = true) :
      Urgent c (.updateFilter id edit)
  | remove {id : Guid} {f : Filter} (found : c.asked.filters.get? id = some f)
      (immediate : f.immediate = true) : Urgent c (.removeFilter id)
  | page (page : Nat) : Urgent c (.setPage page)
  | pageSize (pageSize : Option Nat) : Urgent c (.setPageSize pageSize)

theorem Urgent.delay {c : LiveList α} {change : Change} (urgent : Urgent c change) :
    change.delay? c = some 0 := by
  cases urgent with
  | add immediate => simp [Change.delay?, immediate]
  | update found immediate => simp [Change.delay?, found, immediate]
  | remove found immediate => simp [Change.delay?, found, immediate]
  | page | pageSize => rfl

theorem Change.debouncer_trigger (c : LiveList α) (asked : Listing) (urgent : Bool) :
    ({ c with asked }.trigger urgent).debouncer =
      c.debouncer.call (if urgent then 0 else c.delay) [((), 0)] := by
  cases urgent <;> rfl

/-- A change calls for a reload after its delay, or else leaves the tasks alone. -/
theorem Change.debouncer_apply (c : LiveList α) {change : Change} (alone : change ≠ .wake) :
    (∃ delay, change.delay? c = some delay ∧
      (change.apply c).1.debouncer = c.debouncer.call delay [((), 0)]) ∨
    change.delay? c = none ∧ (change = .tick ∧ (change.apply c).1.debouncer = c.debouncer.tick ∨
      change ≠ .tick ∧ (change.apply c).1.debouncer = c.debouncer) := by
  cases change with
  | addFilter f => exact .inl ⟨_, rfl, debouncer_trigger c _ _⟩
  | updateFilter id edit =>
    simp only [apply, delay?, LiveList.updateFilter]
    cases c.asked.filters.get? id with
    | none => exact .inr ⟨rfl, .inr ⟨by simp, rfl⟩⟩
    | some f => exact .inl ⟨_, rfl, debouncer_trigger c _ _⟩
  | removeFilter id =>
    simp only [apply, delay?, LiveList.removeFilter]
    cases c.asked.filters.get? id with
    | none => exact .inr ⟨rfl, .inr ⟨by simp, rfl⟩⟩
    | some f => exact .inl ⟨_, rfl, debouncer_trigger c _ _⟩
  | clearFilters => exact .inl ⟨_, rfl, debouncer_trigger c _ false⟩
  | setCombinator combinator => exact .inl ⟨_, rfl, debouncer_trigger c _ false⟩
  | setSorts sorts => exact .inl ⟨_, rfl, debouncer_trigger c _ false⟩
  | setPage page => exact .inl ⟨_, rfl, debouncer_trigger c _ true⟩
  | setPageSize pageSize => exact .inl ⟨_, rfl, debouncer_trigger c _ true⟩
  | scheduleReload => exact .inl ⟨_, rfl, rfl⟩
  | tick => exact .inr ⟨rfl, .inl ⟨rfl, rfl⟩⟩
  | wake => exact absurd rfl alone

inductive Beat (c : LiveList α) : Option (Debouncer.Event Unit) → LiveList α → Prop
  | change (change : Change) (alone : change ≠ .wake) : Beat c (change.event? c) (change.apply c).1
  /-- A task wakes; each of its steps is a reload that begins. -/
  | wake {t : Debouncer.Task Unit} {done : List Unit} {debouncer : Debouncer Unit}
      (wakes : c.debouncer.Wakes t done debouncer) :
      Beat c (some (t.event done))
        (done.foldl (fun d _ => d.beginReload.1) { c with debouncer })
  | reload : Beat c none c.beginReload.1
  | finish {r : Reload} (running : r ∈ c.running) (result : Except QueryError (Envelope α)) :
      Beat c none (c.complete r.sequence result).1
  | dispose : Beat c (some .disposed) c.dispose

inductive Beats (start : LiveList α) : List (Debouncer.Event Unit) → LiveList α → Prop
  | start : Beats start [] start
  | more {events : List (Debouncer.Event Unit)} {c d : LiveList α} {x : Option (Debouncer.Event Unit)} :
      Beats start events c → Beat c x d → Beats start (events ++ x.toList) d

section

variable {c d e start : LiveList α} {events after : List (Debouncer.Event Unit)} {x : Option (Debouncer.Event Unit)}

theorem Beat.turn (paced : c.Paced) (beat : Beat c x d) : ∃ a, Turn c a d := by
  cases beat with
  | change change alone => exact ⟨_, .change change alone⟩
  | @wake t done debouncer wakes =>
    obtain ⟨a, woken⟩ := paced.queued.wake_task wakes.mem
    obtain ⟨-, -, -, -, -, rfl, -⟩ := paced.queued.wakes wakes
    rw [woken] at wakes ⊢
    by_cases newest : t.generation = c.debouncer.generation
    · rw [if_pos newest] at wakes ⊢
      exact ⟨_, .fire wakes ⟨0, 0, by decide⟩⟩
    · rw [if_neg newest] at wakes ⊢
      exact ⟨_, .lapse wakes⟩
  | reload => exact ⟨_, .reload ⟨0, 0, by decide⟩⟩
  | finish running result => exact ⟨_, .finish running result⟩
  | dispose => exact ⟨_, .dispose⟩

theorem paced_beats (paced : start.Paced) (beats : Beats start events c) : c.Paced := by
  induction beats with
  | start => exact paced
  | more _ beat ih =>
    obtain ⟨a, turn⟩ := beat.turn ih
    exact paced_turn ih turn

theorem Beats.split {before mid : List (Debouncer.Event Unit)} {y : Debouncer.Event Unit}
    (beats : Beats start events c) (whole : events = before ++ y :: mid) :
    ∃ d e, Beats start before d ∧ Beat d (some y) e := by
  induction beats generalizing mid with
  | start => simp at whole
  | @more events c d x beats beat ih =>
    cases x with
    | none => exact ih (by simpa using whole)
    | some x =>
      rcases Debouncer.concat_eq_split_iff.mp whole with ⟨rfl, rfl, -⟩ | ⟨front, inside, -⟩
      · exact ⟨_, _, beats, beat⟩
      · exact ih inside

theorem undisturbed_append : Undisturbed (events ++ x.toList) ↔
    Undisturbed events ∧ ∀ y ∈ x, y.isRequest = false := by
  cases x <;> simp [Undisturbed, or_imp, forall_and]

theorem mem_started_append {n : Nat} (member : n ∈ started events) :
    n ∈ started (events ++ x.toList) := by
  rw [started, List.filterMap_append]
  exact List.mem_append_left _ member

theorem debouncer_begins (done : List Unit) (c : LiveList α) :
    (done.foldl (fun d _ => d.beginReload.1) c).debouncer = c.debouncer := by
  induction done generalizing c with
  | nil => rfl
  | cons a rest ih =>
    rw [List.foldl_cons, ih]
    exact (sameAsked_beginReload c).debouncer

/-- What happens to the debouncer in a turn: nothing, a call, the passing of time, a task that wakes or
the end. -/
inductive Shifts (c : Debouncer Unit) : Option (Debouncer.Event Unit) → Debouncer Unit → Prop
  | idle : Shifts c none c
  | call (delay : Nat) : Shifts c
      (some (.called (if c.disposed then none else some (c.generation + 1)) delay [((), 0)]))
      (c.call delay [((), 0)])
  | tick : Shifts c (some .passed) c.tick
  | wake {t : Debouncer.Task Unit} {done : List Unit} {d : Debouncer Unit}
      (wakes : c.Wakes t done d) : Shifts c (some (t.event done)) d
  | dispose : Shifts c (some .disposed) c.dispose

theorem Beat.shifts (beat : Beat c x d) : Shifts c.debouncer x d.debouncer := by
  cases beat with
  | change change alone =>
    rcases change.debouncer_apply c alone with ⟨delay, called, same⟩ | ⟨idle, ⟨rfl, -⟩ | ⟨other, same⟩⟩
    · have event : change.event? c = (change.delay? c).map fun delay => .called
          (if c.debouncer.disposed then none else some (c.debouncer.generation + 1)) delay
            [((), 0)] := by
        cases change <;> first | rfl | cases called
      rw [event, called, same]
      exact .call delay
    · exact .tick
    · have event : change.event? c = none := by
        cases change <;> simp_all [Change.event?]
      rw [event, same]
      exact .idle
  | wake wakes =>
    rw [debouncer_begins]
    exact .wake wakes
  | reload =>
    rw [(sameAsked_beginReload c).debouncer]
    exact .idle
  | @finish r running result =>
    rw [(sameAsked_complete c r.sequence result).debouncer]
    exact .idle
  | dispose => exact .dispose

/-- A call without delay and what came after it. As long as that is no request, its task is the newest
and due until it wakes. -/
structure Since (n : Nat) (after : List (Debouncer.Event Unit)) (c : Debouncer Unit) : Prop where
  newest : Undisturbed after → c.generation = n ∧ c.disposed = false
  superseded : ¬ Undisturbed after → n < c.generation
  due : Undisturbed after → n ∉ started after →
    ∃ t ∈ c.tasks, t.generation = n ∧ t.isDue c.now = true

theorem since_call {c : Debouncer Unit} (opened : c.disposed = false) :
    Since (c.generation + 1) [] (c.call 0 [((), 0)]) := by
  rw [Debouncer.call, if_neg (by simp [opened])]
  constructor
  case newest => exact fun _ => ⟨rfl, opened⟩
  case superseded => simp [Undisturbed]
  case due =>
    intro _ _
    refine ⟨_, List.mem_append_right _ (List.mem_singleton_self _), rfl, ?_⟩
    simp [Debouncer.Task.isDue]

variable {n : Nat} {b b' : Debouncer Unit}

theorem Since.quiet (since : Since n after b) (idle : ∀ y ∈ x, y.isRequest = false)
    (generation : b'.generation = b.generation) (disposed : b'.disposed = b.disposed)
    (due : n ∉ started (after ++ x.toList) → b.generation = n →
      ∀ t ∈ b.tasks, t.generation = n → t.isDue b.now = true →
        ∃ u ∈ b'.tasks, u.generation = n ∧ u.isDue b'.now = true) :
    Since n (after ++ x.toList) b' := by
  have same : Undisturbed (after ++ x.toList) ↔ Undisturbed after := by
    rw [undisturbed_append, and_iff_left idle]
  constructor
  case newest =>
    rw [same, generation, disposed]
    exact since.newest
  case superseded =>
    rw [same, generation]
    exact since.superseded
  case due =>
    intro undisturbed waits
    replace undisturbed := same.mp undisturbed
    obtain ⟨t, member, rfl, ready⟩ := since.due undisturbed (mt mem_started_append waits)
    exact due waits (since.newest undisturbed).1 t member rfl ready

theorem Since.request (since : Since n after b) {y : Debouncer.Event Unit} (request : y.isRequest = true)
    (grows : b.generation ≤ b'.generation)
    (newer : b.disposed = false → b.generation < b'.generation) :
    Since n (after ++ (some y).toList) b' := by
  have disturbed : ¬ Undisturbed (after ++ (some y).toList) := by
    rw [Option.toList_some, Debouncer.undisturbed_concat]
    simp [request]
  constructor
  case newest => exact fun undisturbed => absurd undisturbed disturbed
  case superseded =>
    intro _
    by_cases before : Undisturbed after
    · obtain ⟨rfl, opened⟩ := since.newest before
      exact newer opened
    · exact Nat.lt_of_lt_of_le (since.superseded before) grows
  case due => exact fun undisturbed => absurd undisturbed disturbed

theorem Since.shift (since : Since n after b) (queued : b.Queued) (shifts : Shifts b x b') :
    Since n (after ++ x.toList) b' := by
  cases shifts with
  | idle =>
    refine since.quiet (by simp) rfl rfl ?_
    exact fun _ _ t member same ready => ⟨t, member, same, ready⟩
  | call delay =>
    refine since.request rfl ?_ ?_
    · unfold Debouncer.call
      split <;> simp
    · intro opened
      simp [Debouncer.call, opened]
  | tick =>
    refine since.quiet (by simp [Debouncer.Event.isRequest]) rfl rfl ?_
    intro _ _ t member same ready
    refine ⟨t, member, same, ?_⟩
    rw [Debouncer.Task.isDue, decide_eq_true_eq] at ready ⊢
    exact Nat.le_succ_of_le ready
  | @wake u done _ wakes =>
    obtain ⟨now, generation, disposed, -⟩ := wakes.same
    refine since.quiet (by simp) generation disposed ?_
    intro waits newest t member same ready
    -- the task itself would have begun
    have other : t ≠ u := by
      rintro rfl
      refine waits (Debouncer.mem_started_iff.mpr ⟨done, ?_, ?_⟩)
      · exact (queued.works_iff wakes).mpr (same.trans newest.symm)
      · simp [queued.event_of_mem wakes.mem, same]
    exact ⟨t, wakes.stays member other, same, by rw [now]; exact ready⟩
  | dispose =>
    exact since.request rfl (Nat.le_succ _) fun _ => Nat.lt_succ_self _

theorem since_beats (paced : c.Paced) (since : Since n [] c.debouncer) (beats : Beats c after d) :
    Since n after d.debouncer := by
  induction beats with
  | start => exact since
  | more before beat ih => exact ih.shift (paced_beats paced before).queued beat.shifts

/-- When its task wakes, the reload begins unless something was asked since the call. -/
theorem Since.woke (since : Since n after b) (queued : b.Queued) {done : List Unit}
    (shifts : Shifts b (some (.woke n done)) b') : done ≠ [] ↔ Undisturbed after := by
  generalize same : some (Debouncer.Event.woke n done) = y at shifts
  cases shifts with
  | @wake u _ _ wakes =>
    rw [queued.event_of_mem wakes.mem] at same
    obtain ⟨rfl, rfl⟩ := Debouncer.Event.woke.inj (Option.some.inj same)
    rw [queued.works_iff wakes]
    constructor
    · intro newest
      by_contra disturbed
      exact absurd newest (Nat.ne_of_lt (since.superseded disturbed))
    · exact fun undisturbed => (since.newest undisturbed).1.symm
  | _ => cases same

theorem Since.wakes (since : Since n after b) (queued : b.Queued) (undisturbed : Undisturbed after)
    (waits : n ∉ started after) : ∃ t b', b.Wakes t [()] b' ∧ t.event [()] = .woke n [()] := by
  obtain ⟨t, member, rfl, due⟩ := since.due undisturbed waits
  have newest := (since.newest undisturbed).1.symm
  obtain ⟨_, b', wakes⟩ := queued.wakes_newest member due newest
  exact ⟨t, b', wakes, queued.event_of_mem member _⟩

/-- In a session a task that is due begins its reload before anything else is done. -/
theorem puts_settle {R : Type} (around : Surroundings R α) {s : ListSession R α}
    (paced : s.list.Paced) (live : s.list.disposed = false) {t : Debouncer.Task Unit}
    (wakes : s.list.debouncer.Wakes t [()] b) : ∃ q, Puts around s (s.settle around) q := by
  have works : s.list.debouncer.wake.2 ≠ [] := by
    intro idle
    have together := (paced.queued.wake_after wakes).2
    rw [idle] at together
    cases together.nil_eq
  obtain ⟨-, -, a, -, -, one⟩ := paced.queued.exists_wakes works
  have settled : s.settle around = ((s.withList s.list.wake.1).reload around).1 := by
    simp [ListSession.settle, wake, one, ListSession.reloadTimes, ListSession.withList]
  obtain ⟨q, -, puts⟩ := puts_reload around (s := s.withList s.list.wake.1) live
  rw [settled]
  exact ⟨q, puts.asks, puts.sequence, puts.calls⟩

/-- What becomes of a reload that waits for nothing but its turn; `after` is what happened since it
was called for, up to the list as it is. -/
structure Prompt (n : Nat) (after : List (Debouncer.Event Unit)) (d : LiveList α) : Prop where
  /-- It begins if nothing is asked of the debouncer before its task wakes, and only then. -/
  begins_iff : n ∈ started after ↔
    ∃ mid done rest, after = mid ++ .woke n done :: rest ∧ Undisturbed mid
  /-- It begins in the next turn, if its task gets it, with a query for what is asked by then. -/
  ready : Undisturbed after → n ∉ started after → ∀ now, ∃ b e, Beat d (some (.woke n [()])) e ∧
    Turn d (.began now (some b)) e ∧ b.sequence = d.sequence + 1 ∧
    Asks d.asked d.resolver now b.query
  /-- In a session it begins before any time passes. -/
  settles : Undisturbed after → n ∉ started after → ∀ (R : Type) (around : Surroundings R α)
    (s : ListSession R α), s.list = d → ∃ q, Puts around s (s.settle around) q
  /-- After any other request it will not begin any more. -/
  superseded : ∀ mid x rest, after = mid ++ x :: rest → x.isRequest = true →
    n ∉ started mid → n ∉ started after

theorem prompt_of_since (paced : c.Paced) (since : Since n [] c.debouncer) (beats : Beats c after d) :
    Prompt n after d := by
  have tracks := since_beats paced since beats
  have later := paced_beats paced beats
  have woke (mid rest : List (Debouncer.Event Unit)) (done : List Unit)
      (split : after = mid ++ .woke n done :: rest) : done ≠ [] ↔ Undisturbed mid := by
    obtain ⟨e, f, before, beat⟩ := beats.split split
    exact (since_beats paced since before).woke (paced_beats paced before).queued beat.shifts
  constructor
  case begins_iff =>
    constructor
    · intro begun
      obtain ⟨done, works, inside⟩ := Debouncer.mem_started_iff.mp begun
      obtain ⟨mid, rest, split⟩ := List.append_of_mem inside
      exact ⟨mid, done, rest, split, (woke mid rest done split).mp works⟩
    · rintro ⟨mid, done, rest, split, undisturbed⟩
      have works := (woke mid rest done split).mpr undisturbed
      exact Debouncer.mem_started_iff.mpr ⟨done, works, by simp [split]⟩
  case ready =>
    intro undisturbed waits now
    obtain ⟨t, debouncer, wakes, event⟩ := tracks.wakes later.queued undisturbed waits
    have live : d.disposed = false := by
      rw [← later.disposed]
      exact (tracks.newest undisturbed).2
    have beat := Beat.wake wakes
    have fires := Turn.fire wakes now
    obtain ⟨q, begins, asks⟩ := startReload_live (c := { d with debouncer }) live now
    rw [event] at beat
    rw [begins] at fires
    exact ⟨_, _, beat, fires, rfl, asks⟩
  case settles =>
    rintro undisturbed waits R around s rfl
    obtain ⟨t, debouncer, wakes, -⟩ := tracks.wakes later.queued undisturbed waits
    have live : s.list.disposed = false := by
      rw [← later.disposed]
      exact (tracks.newest undisturbed).2
    exact puts_settle around later live wakes
  case superseded =>
    intro mid x rest split request waits begun
    obtain ⟨done, works, inside⟩ := Debouncer.mem_started_iff.mp begun
    rw [split] at inside
    rcases List.mem_append.mp inside with early | late
    · exact waits (Debouncer.mem_started_iff.mpr ⟨done, works, early⟩)
    rcases List.mem_cons.mp late with rfl | late
    · cases request
    obtain ⟨front, back, rfl⟩ := List.append_of_mem late
    have undisturbed := (woke (mid ++ x :: front) back done (by simp [split])).mp works
    have quiet := undisturbed x (by simp)
    rw [quiet] at request
    cases request

/-- Whatever the order of turns, an urgent edit calls for a reload that waits for nothing but its turn,
as long as nothing else is asked of the debouncer. -/
theorem urgent_beats {before : List (Debouncer.Event Unit)} {change : Change} (fresh : start.Fresh)
    (debouncer : start.debouncer = {}) (beats : Beats start before c) (live : c.disposed = false)
    (urgent : Urgent c change) (further : Beats (change.apply c).1 after d) :
    change.event? c = some (.called (some (c.debouncer.generation + 1)) 0 [((), 0)]) ∧
      Prompt (c.debouncer.generation + 1) after d := by
  have paced := paced_beats (paced_fresh fresh debouncer) beats
  have opened : c.debouncer.disposed = false := paced.disposed.trans live
  have alone : change ≠ .wake := by
    rintro rfl
    cases urgent
  have event : change.event? c =
      some (.called (some (c.debouncer.generation + 1)) 0 [((), 0)]) := by
    have delay := urgent.delay
    cases urgent <;> simp [Change.event?, delay, opened]
  have beat := Beat.change (c := c) change alone
  have since : Since (c.debouncer.generation + 1) [] (change.apply c).1.debouncer := by
    rcases change.debouncer_apply c alone with ⟨delay, called, same⟩ | ⟨idle, -⟩
    · rw [urgent.delay] at called
      cases called
      rw [same]
      exact since_call opened
    · rw [urgent.delay] at idle
      cases idle
  have later : (change.apply c).1.Paced := by
    obtain ⟨a, turn⟩ := beat.turn paced
    exact paced_turn paced turn
  exact ⟨event, prompt_of_since later since further⟩

end

def marked : Filter := { Filter.boolean "Active" true with id := .ofNat 1, immediate := true }

/-- A reload that waits for its delay does not hold up the one of an urgent edit. -/
theorem urgent_beats_pending :
    people.Fresh ∧ people.debouncer = {} ∧ ∃ c d, Beats people [.called (some 1) 100 [((), 0)]] c ∧
      c.disposed = false ∧ Urgent c (.addFilter marked) ∧ Beats (c.addFilter marked).1 [] d ∧
      Prompt 2 [] d := by
  have fresh : people.Fresh := ⟨rfl, rfl, rfl, rfl, rfl⟩
  have sorted : Beats people [.called (some 1) 100 [((), 0)]] (people.setSorts []) :=
    Beats.start.more (.change (.setSorts []) (by simp))
  have urgent : Urgent (people.setSorts []) (.addFilter marked) := .add rfl
  have prompt := (urgent_beats fresh rfl sorted rfl urgent .start).2
  exact ⟨fresh, rfl, people.setSorts [], _, sorted, rfl, urgent, .start, prompt⟩

/-- An edit that is not urgent comes before the task of an urgent one wakes, and takes its place: no
reload begins before the delay of the list is over. An edit that takes the mark off a filter is not
urgent itself. -/
theorem urgent_superseded :
    marked.immediate = true ∧ (∃ d, Beats people
      [.called (some 1) 0 [((), 0)], .called (some 2) 100 [((), 0)], .woke 1 []] d ∧
        d.asked.filters.filters = [marked, Filter.boolean "Open" true] ∧
        d.sequence = 0 ∧ ∀ t ∈ d.debouncer.tasks, t.due = 100) ∧
    Change.delay? (people.addFilter marked).1
      (.updateFilter marked.id fun f => { f with immediate := false }) = some 100 := by
  refine ⟨rfl, ?_, rfl⟩
  have edited : Beats people _ (people.addFilter marked).1 :=
    Beats.start.more (.change (.addFilter marked) (by simp))
  have burst := edited.more (.change (.addFilter (Filter.boolean "Open" true)) (by simp))
  have lapsed := burst.more (.wake (.of (show _ = [] ++ ⟨1, 0, false, [((), 0)]⟩ :: _ from rfl) rfl))
  refine ⟨_, lapsed, rfl, rfl, ?_⟩
  intro t member
  cases List.mem_singleton.mp member
  rfl

end ODataQuery.LiveList
