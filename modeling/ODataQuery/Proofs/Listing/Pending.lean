import Mathlib.Data.List.DropRight
import ODataQuery.Proofs.Listing.Publication
import ODataQuery.Proofs.Listing.Turn

/-! No edit is lost. As long as edits have not reached a query a reload is awaited, and it begins
with all of them. -/
namespace ODataQuery.LiveList

variable {α : Type}

def sinceBegin (acts : List (Act α)) : List (Act α) :=
  acts.rtakeWhile fun a => a.beginning?.isNone

/-- The last reload that began, and when. -/
def lastBegun (acts : List (Act α)) : Option (Instant × Beginning) :=
  (acts.filterMap Act.beginning?).getLast?

/-- No edit came after the last reload began, and its query is for what is asked. -/
structure Current (acts : List (Act α)) (c : LiveList α) : Prop where
  edits : ∀ a ∈ sinceBegin acts, a.isEdit = false
  asked : ∀ now b, lastBegun acts = some (now, b) →
    b.sequence = c.sequence ∧ Asks c.asked c.resolver now b.query

theorem current_start (start : LiveList α) : Current [] start where
  edits := by simp [sinceBegin]
  asked := by simp [lastBegun]

theorem current_begin {c : LiveList α} (live : c.disposed = false) (acts : List (Act α))
    (now : Instant) :
    Current (acts ++ [.began now (c.startReload now).2]) (c.startReload now).1 := by
  obtain ⟨q, begins, asks⟩ := startReload_live live now
  constructor
  case edits => simp [sinceBegin, Act.beginning?, begins]
  case asked =>
    intro instant b last
    obtain ⟨rfl, rfl⟩ : now = instant ∧ ⟨c.sequence + 1, q⟩ = b := by
      simpa [lastBegun, Act.beginning?, begins] using last
    have same := sameAsked_beginReload c
    rw [sequence_startReload live, startReload_fst, same.asked, same.resolver]
    exact ⟨rfl, asks⟩

theorem Current.idle {c d : LiveList α} {acts : List (Act α)} {a : Act α} (current : Current acts c)
    (asked : d.asked = c.asked) (resolver : d.resolver = c.resolver)
    (sequence : d.sequence = c.sequence) (idle : a.isEdit = false ∧ a.beginning? = none) :
    Current (acts ++ [a]) d where
  edits := by
    rw [sinceBegin, List.rtakeWhile_concat, if_pos (by simp [idle.2])]
    intro x member
    rcases List.mem_append.mp member with old | new
    · exact current.edits x old
    · rw [List.mem_singleton.mp new]
      exact idle.1
  asked := by
    intro now b last
    have before : lastBegun acts = some (now, b) := by simpa [lastBegun, idle.2] using last
    rw [asked, resolver, sequence]
    exact current.asked now b before

/-- Unless the list is disposed, a reload is awaited or the last one that began is current. -/
def Attended (acts : List (Act α)) (c : LiveList α) : Prop :=
  c.disposed = false → c.debouncer.Awaits ∨ Current acts c

theorem attended_turn {c d : LiveList α} {acts : List (Act α)} {a : Act α} (paced : c.Paced)
    (attended : Attended acts c) (turn : Turn c a d) : Attended (acts ++ [a]) d := by
  intro live
  cases turn with
  | change change alone =>
    have opened : c.disposed = false := (Change.announces c change).same.disposed ▸ live
    rcases change.apply_cases c alone with ⟨asked, delay, -, -, same⟩ | ⟨idle, same | same⟩
    -- the task of the newest call is awaited, whatever was before
    · refine .inl ?_
      rw [same]
      exact Debouncer.awaits_call (paced.disposed.trans opened) delay _
    · rw [same]
      refine (attended opened).imp id fun current => ?_
      exact current.idle rfl rfl rfl ⟨idle, rfl⟩
    · rw [same]
      refine (attended opened).imp id fun current => ?_
      exact current.idle rfl rfl rfl ⟨idle, rfl⟩
  | lapse wakes =>
    refine (attended live).imp (paced.queued.awaits_of_lapse wakes) fun current => ?_
    exact current.idle rfl rfl rfl ⟨rfl, rfl⟩
  | fire wakes now =>
    have opened := (beginReload_disposed _).symm.trans live
    exact .inr (current_begin opened acts now)
  | reload now =>
    have opened := (beginReload_disposed c).symm.trans live
    exact .inr (current_begin opened acts now)
  | @finish r running result =>
    have settles := settles_complete c r.sequence result
    have same := sameAsked_complete c r.sequence result
    have opened : c.disposed = false := settles.disposed ▸ live
    rw [same.debouncer]
    refine (attended opened).imp id fun current => ?_
    exact current.idle same.asked same.resolver settles.sequence ⟨rfl, rfl⟩
  | dispose => cases live

theorem attended_turns {start c : LiveList α} {acts : List (Act α)} (paced : start.Paced)
    (turns : Turns start acts c) : Attended acts c := by
  induction turns with
  | start => exact fun _ => .inr (current_start start)
  | more before turn ih => exact attended_turn (paced_turns paced before) ih turn

theorem turns_ticks (c : LiveList α) (n : Nat) :
    Turns c (List.replicate n (.changed .tick false))
      { c with debouncer := { c.debouncer with now := c.debouncer.now + n } } := by
  induction n with
  | zero => exact .start
  | succ n ih =>
    rw [List.replicate_succ']
    exact ih.more (.change .tick (by simp))

theorem due_begins {c : LiveList α} (paced : c.Paced) (live : c.disposed = false)
    {t : Debouncer.Task Unit} (member : t ∈ c.debouncer.tasks)
    (due : t.isDue c.debouncer.now = true) (newest : t.generation = c.debouncer.generation)
    (now : Instant) :
    ∃ b d, Turn c (.began now (some b)) d ∧ b.sequence = c.sequence + 1 ∧
      Asks c.asked c.resolver now b.query ∧ ¬ d.debouncer.Awaits := by
  obtain ⟨a, debouncer, wakes⟩ := paced.queued.wakes_newest member due newest
  have fires := Turn.fire wakes now
  obtain ⟨q, begins, asks⟩ := startReload_live (c := { c with debouncer }) live now
  rw [begins] at fires
  refine ⟨_, _, fires, rfl, asks, ?_⟩
  rw [startReload_fst, (sameAsked_beginReload _).debouncer]
  exact paced.queued.idle_of_begin wakes (by simp)

/-- A reload that is awaited begins within the delay of the list, if only time passes, with a query
for what is asked. No other is awaited then. -/
theorem awaited_begins {c : LiveList α} (paced : c.Paced) (live : c.disposed = false)
    (awaits : c.debouncer.Awaits) (now : Instant) :
    ∃ n ≤ c.delay, ∃ b d, Turns c (List.replicate n (.changed .tick false) ++
      [.began now (some b)]) d ∧ b.sequence = c.sequence + 1 ∧
        Asks c.asked c.resolver now b.query ∧ ¬ d.debouncer.Awaits := by
  obtain ⟨t, member, -, newest⟩ := awaits
  have prompt := paced.prompt t member
  have ticks := turns_ticks c (t.due - c.debouncer.now)
  have due : t.isDue (c.debouncer.now + (t.due - c.debouncer.now)) = true := by
    rw [Debouncer.Task.isDue, decide_eq_true_eq]
    omega
  obtain ⟨b, d, begins, rest⟩ := due_begins (paced_turns paced ticks) live member due newest now
  exact ⟨t.due - c.debouncer.now, by omega, b, d, ticks.more begins, rest⟩

theorem Paced.awaits_iff {c : LiveList α} (paced : c.Paced) :
    c.debouncer.Awaits ↔ c.debouncer.isPending = true :=
  paced.queued.awaits_iff_isPending

/-- Whatever the order of turns, a reload is pending or there was no edit since the last one began.
When none is pending, the query of the last one is for what is asked now; one that is pending begins
with such a query once the delay of the list is over. Sessions take such turns, and put the queries
that begin in them. -/
theorem edits_reach_query {start c : LiveList α} {acts : List (Act α)} (fresh : start.Fresh)
    (debouncer : start.debouncer = {}) (turns : Turns start acts c) (live : c.disposed = false) :
    (c.debouncer.isPending = true ∨ ∀ a ∈ sinceBegin acts, a.isEdit = false) ∧
      (c.debouncer.isPending = false → ∀ now b, lastBegun acts = some (now, b) →
        b.sequence = c.sequence ∧ Asks c.asked c.resolver now b.query) ∧
      (c.debouncer.isPending = true → ∀ now, ∃ n ≤ c.delay, ∃ b d,
        Turns c (List.replicate n (.changed .tick false) ++ [.began now (some b)]) d ∧
          b.sequence = c.sequence + 1 ∧ Asks c.asked c.resolver now b.query ∧
          d.debouncer.isPending = false) ∧
      ∀ (R : Type) (around : Surroundings R α) (s : ListSession R α), s.list = c →
        (∃ q more, Puts around s (s.reload around).1 q ∧
          Turns c ([.began around.now (some ⟨c.sequence + 1, q⟩)] ++ more)
            (s.reload around).1.list) ∧
        ∀ n, ∃ more, Turns c more (s.advance around n).list := by
  have paced := paced_fresh fresh debouncer
  have reached := paced_turns paced turns
  have attended := attended_turns paced turns live
  rw [reached.awaits_iff] at attended
  refine ⟨attended.imp_right Current.edits, ?_, ?_, ?_⟩
  · intro idle now b last
    exact (attended.resolve_left (by simp [idle])).asked now b last
  · intro pending now
    obtain ⟨n, bound, b, d, begins, number, asks, idle⟩ :=
      awaited_begins reached live (reached.awaits_iff.mpr pending) now
    have still : d.debouncer.isPending = false := by
      simpa [(paced_turns reached begins).awaits_iff] using idle
    exact ⟨n, bound, b, d, begins, number, asks, still⟩
  · rintro R around s rfl
    refine ⟨?_, fun n => turns_advance around n reached⟩
    obtain ⟨q, begins, puts⟩ := puts_reload around live
    have begun := Turns.start.more (.reload (c := s.list) around.now)
    rw [begins] at begun
    obtain ⟨more, ends⟩ := turns_reload around s
    exact ⟨q, more, puts, begun.trans ends⟩

/-- Edits in a burst, some of them urgent: the task of the last one begins the only reload, and its
query has all of them. -/
theorem edits_reach_query_burst :
    people.Fresh ∧ people.debouncer = {} ∧ ∃ acts c now b, Turns people acts c ∧
      c.disposed = false ∧ c.debouncer.isPending = false ∧ lastBegun acts = some (now, b) ∧
      b.sequence = c.sequence ∧ b.query.filter = "Active eq true" ∧ b.query.orderBy = "Name desc" ∧
      b.query.top = some 10 ∧ b.query.skip = some 20 := by
  have fresh : people.Fresh := ⟨rfl, rfl, rfl, rfl, rfl⟩
  have filtered : Turns people _ (people.addFilter (Filter.boolean "Active" true)).1 :=
    Turns.start.more (.change (.addFilter (Filter.boolean "Active" true)) (by simp))
  have sorted := filtered.more (.change (.setSorts [⟨"Name", 0, true⟩]) (by simp))
  have sized := sorted.more (.change (.setPageSize (some 10)) (by simp))
  have edited := sized.more (.change (.setPage 2) (by simp))
  have first := @Debouncer.Wakes.of Unit ⟨0, 4, _, some 4, false⟩ ⟨3, 0, false, [((), 0)]⟩
    [⟨1, 100, false, [((), 0)]⟩, ⟨2, 100, false, [((), 0)]⟩] [⟨4, 0, false, [((), 0)]⟩] rfl rfl
  have second := @Debouncer.Wakes.of Unit ⟨0, 4, _, some 4, false⟩ ⟨4, 0, false, [((), 0)]⟩
    [⟨1, 100, false, [((), 0)]⟩, ⟨2, 100, false, [((), 0)]⟩] [] rfl rfl
  have fired := (edited.more (.lapse first)).more (.fire second ⟨0, 0, by decide⟩)
  have current := (edits_reach_query fresh rfl fired rfl).2.1 rfl _ _ rfl
  have named : SortKey.ordered [⟨"Name", 0, true⟩] = [⟨"Name", 0, true⟩] :=
    List.mergeSort_singleton _
  have ordered : SortKey.compile (some people.resolver) [⟨"Name", 0, true⟩] = "Name desc" := by
    rw [SortKey.compile, named]
    rfl
  exact ⟨fresh, rfl, _, _, _, _, fired, rfl, rfl, rfl, current.1, current.2.filter.trans rfl,
    current.2.orderBy.trans ordered, current.2.top, current.2.skip⟩

end ODataQuery.LiveList
