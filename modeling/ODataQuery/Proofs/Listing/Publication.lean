import Mathlib.Data.List.Induction
import ODataQuery.Proofs.Listing.Run

/-! What live lists publish. Reloads may overlap and end in any order; a reload that ends counts
when none began after it and the list is not disposed. Only reloads that count publish anything. -/
namespace ODataQuery

def ListView.sequence? : ListView α → Option Nat
  | idle => none
  | loaded sequence _ => some sequence
  | failed sequence _ _ => some sequence

/-- How the list of an entity set announces that it shows rows. -/
def ListView.announcement? (entitySet : String) : ListView α → Option Notice
  | loaded _ rows => some (.dataBound entitySet rows.count rows.size)
  | _ => none

def Notice.isDataBound : Notice → Bool
  | dataBound .. => true
  | _ => false

namespace LiveList

variable {α : Type}

namespace Completion

/-- Nothing is told or published. -/
def Stale (e : Completion α) : Prop := e.answer = .stale ∧ e.update = none ∧ e.notices = []

/-- The result is told and published, unless it is an error that ended the query by intent. -/
def Counts (entitySet : String) (localizer : Localizer) (e : Completion α) : Prop :=
  match e.result with
  | .ok rows => e.answer = .loaded rows ∧ e.update = some (.loaded e.sequence rows) ∧
      e.notices = [.dataBound entitySet rows.count rows.size]
  | .error error => e.answer = .failed error ∧ e.notices = [] ∧
      e.update = if error.isSilent then none
        else some (.failed e.sequence error (error.localized localizer))

end Completion

theorem complete_stale {c : LiveList α} {sequence : Nat}
    (stale : c.sequence ≠ sequence ∨ c.disposed = true)
    (result : Except QueryError (Envelope α)) : (c.complete sequence result).2.Stale := by
  unfold complete endReload
  rw [if_pos stale]
  exact ⟨rfl, rfl, rfl⟩

theorem complete_counts {c : LiveList α} {sequence : Nat}
    (newest : ¬ (c.sequence ≠ sequence ∨ c.disposed = true))
    (result : Except QueryError (Envelope α)) :
    (c.complete sequence result).2.Counts c.entitySet c.localizer := by
  unfold complete endReload
  rw [if_neg newest]
  cases result with
  | ok rows => exact ⟨rfl, rfl, rfl⟩
  | error error =>
    cases silent : error.isSilent <;> simp [publish, silent, ListSession.isShown, Completion.Counts]

/-- A newer reload began, or the list is disposed. -/
def Superseded (before : List (Event α)) (sequence : Nat) : Prop :=
  (∃ t ∈ begun before, sequence < t) ∨ .disposed ∈ before

/-- Shows nothing, and announces nothing but an edit's change of the filters. -/
def Event.Quiet (entitySet : String) (e : Event α) : Prop :=
  e.update? = none ∧ ∀ n ∈ e.notices,
    (∃ change notices, e = .changed change notices) ∧ ∃ ids, n = .filtersChanged entitySet ids

def Judged (entitySet : String) (localizer : Localizer) (before : List (Event α)) :
    Event α → Prop
  | .changed _ notices => ∀ n ∈ notices, ∃ ids, n = .filtersChanged entitySet ids
  | .began _ => True
  | .ended e => e.sequence ∈ begun before ∧ e.sequence ∉ ended before ∧
      (Superseded before e.sequence → e.Stale) ∧
      (¬ Superseded before e.sequence → e.Counts entitySet localizer)
  | .disposed => True

/-- The state that a history leads to: reloads are numbered in the order they begin, those under way
have not ended, and the last update is shown. -/
structure Tracks (start : LiveList α) (events : List (Event α)) (c : LiveList α) : Prop where
  entitySet : c.entitySet = start.entitySet
  localizer : c.localizer = start.localizer
  disposed : c.disposed = true ↔ .disposed ∈ events
  numbers : begun events = List.range' 1 c.sequence
  endings : ∀ s ∈ ended events, s ∈ begun events
  running : ∀ r ∈ c.running, r.sequence ∈ begun events ∧ r.sequence ∉ ended events
  current : c.current = (updates events).getLast?.getD .idle

theorem tracks_fresh {start : LiveList α} (fresh : start.Fresh) : Tracks start [] start where
  entitySet := rfl
  localizer := rfl
  disposed := by simp [fresh.disposed]
  numbers := by rw [fresh.sequence]; rfl
  endings := by simp [ended]
  running := by simp [fresh.running]
  current := fresh.current

theorem Tracks.superseded_iff {start c : LiveList α} {events : List (Event α)}
    (tracks : Tracks start events c) {s : Nat} (known : s ∈ begun events) :
    Superseded events s ↔ c.sequence ≠ s ∨ c.disposed = true := by
  rw [Superseded, tracks.disposed]
  rw [tracks.numbers] at known ⊢
  refine or_congr_left ?_
  simp only [List.mem_range'_1] at known ⊢
  constructor
  · rintro ⟨t, bound, newer⟩
    omega
  · intro other
    exact ⟨c.sequence, by omega, by omega⟩

theorem tracks_same {start c d : LiveList α} {events : List (Event α)} {e : Event α}
    (tracks : Tracks start events c) (same : SameReloads c d)
    (quiet : e.update? = none ∧ e.began? = none ∧ e.ended? = none ∧ e ≠ .disposed) :
    Tracks start (events ++ [e]) d := by
  obtain ⟨update, began, ending, other⟩ := quiet
  have started : begun (events ++ [e]) = begun events := by simp [begun, began]
  have finished : ended (events ++ [e]) = ended events := by
    simp [ended, ending]
  have shown : updates (events ++ [e]) = updates events := by simp [updates, update]
  constructor
  · rw [same.entitySet, tracks.entitySet]
  · rw [same.localizer, tracks.localizer]
  · rw [same.disposed, tracks.disposed]
    simp [other.symm]
  · rw [started, same.sequence, tracks.numbers]
  · rw [started, finished]
    exact tracks.endings
  · rw [started, finished, same.running]
    exact tracks.running
  · rw [shown, same.current, tracks.current]

theorem tracks_begin {start c : LiveList α} {events : List (Event α)}
    (tracks : Tracks start events c) :
    Tracks start (events ++ [.began c.beginReload.2]) c.beginReload.1 := by
  unfold beginReload
  by_cases gone : c.disposed = true
  · rw [if_pos gone]
    exact tracks_same tracks ⟨rfl, rfl, rfl, rfl, rfl, rfl, rfl⟩ ⟨rfl, rfl, rfl, by simp⟩
  rw [if_neg gone]
  have started : begun (events ++ [.began (some (c.sequence + 1))]) =
      begun events ++ [c.sequence + 1] := by
    simp [begun, Event.began?]
  have finished : ended (events ++ [.began (some (c.sequence + 1))]) = ended events := by
    simp [ended, Event.ended?]
  have shown : updates (events ++ [.began (some (c.sequence + 1))]) = updates events := by
    simp [updates, Event.update?]
  have fresh : c.sequence + 1 ∉ ended events := by
    intro known
    have bound := tracks.endings _ known
    rw [tracks.numbers, List.mem_range'_1] at bound
    omega
  constructor
  · exact tracks.entitySet
  · exact tracks.localizer
  · simp [tracks.disposed]
  · rw [started, tracks.numbers, List.range'_1_concat, Nat.add_comm 1]
  · rw [started, finished]
    intro s known
    exact List.mem_append_left _ (tracks.endings s known)
  · rw [started, finished]
    intro r member
    rcases List.mem_append.mp member with old | new
    · obtain ⟨q, before, same⟩ := sequence_of_mem_cancelRunning old
      obtain ⟨known, unended⟩ := tracks.running q before
      rw [same]
      exact ⟨List.mem_append_left _ known, unended⟩
    · rw [List.mem_singleton.mp new]
      exact ⟨by simp, fresh⟩
  · rw [shown]
    exact tracks.current

theorem tracks_settled {start c d : LiveList α} {events : List (Event α)} {e : Completion α}
    (tracks : Tracks start events c) (settles : Settles c d e) (known : e.sequence ∈ begun events) :
    Tracks start (events ++ [.ended e]) d := by
  have started : begun (events ++ [.ended e]) = begun events := by simp [begun, Event.began?]
  have finished : ended (events ++ [.ended e]) = ended events ++ [e.sequence] := by
    simp [ended, Event.ended?]
  constructor
  · rw [settles.entitySet, tracks.entitySet]
  · rw [settles.localizer, tracks.localizer]
  · rw [settles.disposed, tracks.disposed]
    simp
  · rw [started, settles.sequence, tracks.numbers]
  · rw [started, finished]
    intro s member
    rcases List.mem_append.mp member with before | last
    · exact tracks.endings s before
    · rw [List.mem_singleton.mp last]
      exact known
  · rw [started, finished, settles.running]
    intro r member
    obtain ⟨inside, other⟩ := List.mem_filter.mp member
    obtain ⟨knownR, unended⟩ := tracks.running r inside
    refine ⟨knownR, ?_⟩
    simp only [List.mem_append, List.mem_singleton, not_or]
    exact ⟨unended, by simpa using other⟩
  · rw [settles.current, tracks.current]
    cases update : e.update <;> simp [updates, Event.update?, update]

theorem tracks_dispose {start c : LiveList α} {events : List (Event α)}
    (tracks : Tracks start events c) : Tracks start (events ++ [.disposed]) c.dispose := by
  have started : begun (events ++ [.disposed]) = begun events := by simp [begun, Event.began?]
  have finished : ended (events ++ [.disposed]) = ended events := by simp [ended, Event.ended?]
  have shown : updates (events ++ [.disposed]) = updates events := by simp [updates, Event.update?]
  constructor
  · exact tracks.entitySet
  · exact tracks.localizer
  · simp [dispose]
  · rw [started]
    exact tracks.numbers
  · rw [started, finished]
    exact tracks.endings
  · rw [started, finished]
    intro r member
    obtain ⟨q, before, same⟩ := sequence_of_mem_cancelRunning member
    rw [same]
    exact tracks.running q before
  · rw [shown]
    exact tracks.current

/-- One step is judged by the history before it, and the history goes on to determine the state. -/
theorem tracks_step {start c d : LiveList α} {events : List (Event α)} {e : Event α}
    (tracks : Tracks start events c) (step : Step c e d) :
    Judged start.entitySet start.localizer events e ∧ Tracks start (events ++ [e]) d := by
  cases step with
  | change change =>
    obtain ⟨same, notices⟩ := change.announces c
    rw [tracks.entitySet] at notices
    exact ⟨notices, tracks_same tracks same ⟨rfl, rfl, rfl, by simp⟩⟩
  | begin => exact ⟨trivial, tracks_begin tracks⟩
  | @finish r running result =>
    obtain ⟨known, unended⟩ := tracks.running r running
    have newest := tracks.superseded_iff known
    refine ⟨⟨known, unended, ?_, ?_⟩, tracks_settled tracks (settles_complete c _ result) known⟩
    · intro superseded
      exact complete_stale (newest.mp superseded) result
    · intro counted
      have counts := complete_counts (mt newest.mpr counted) result
      rwa [tracks.entitySet, tracks.localizer] at counts
  | dispose => exact ⟨trivial, tracks_dispose tracks⟩

theorem tracks_run {start c : LiveList α} {events : List (Event α)} (fresh : start.Fresh)
    (run : Run start events c) :
    Tracks start events c ∧ Throughout (Judged start.entitySet start.localizer) events := by
  induction run with
  | start => exact ⟨tracks_fresh fresh, throughout_nil _⟩
  | more _ step ih =>
    obtain ⟨tracks, each⟩ := ih
    obtain ⟨judged, tracks⟩ := tracks_step tracks step
    exact ⟨tracks, throughout_concat.mpr ⟨each, judged⟩⟩

section

variable {entitySet : String} {localizer : Localizer} {events : List (Event α)}

theorem judged_update {before : List (Event α)} {e : Completion α} {u : ListView α}
    (judged : Judged entitySet localizer before (.ended e)) (update : e.update = some u) :
    u.sequence? = some e.sequence ∧ ¬ Superseded before e.sequence := by
  obtain ⟨-, -, stale, counts⟩ := judged
  have counted : ¬ Superseded before e.sequence := by
    intro superseded
    obtain ⟨-, none, -⟩ := stale superseded
    rw [update] at none
    cases none
  refine ⟨?_, counted⟩
  have given := counts counted
  unfold Completion.Counts at given
  split at given
  · rw [given.2.1] at update
    cases update
    rfl
  · rw [given.2.2] at update
    split at update
    · cases update
    · cases update
      rfl

theorem ended_of_mem_updates (each : Throughout (Judged entitySet localizer) events)
    {u : ListView α} {s : Nat} (member : u ∈ updates events) (number : u.sequence? = some s) :
    s ∈ ended events ∧ s ∈ begun events := by
  obtain ⟨e, inside, update⟩ := List.mem_filterMap.mp member
  cases e with
  | ended e =>
    obtain ⟨before, after, rfl⟩ := List.append_of_mem inside
    have judged := each before (.ended e) after rfl
    have same := (judged_update judged update).1
    rw [number] at same
    cases same
    refine ⟨List.mem_filterMap.mpr ⟨.ended e, inside, rfl⟩, ?_⟩
    rw [begun, List.filterMap_append]
    exact List.mem_append_left _ judged.1
  | _ => cases update

theorem increasing_updates (each : Throughout (Judged entitySet localizer) events) :
    ((updates events).filterMap ListView.sequence?).Pairwise (· < ·) := by
  induction events using List.reverseRecOn with
  | nil => exact .nil
  | append_singleton events x ih =>
    obtain ⟨before, judged⟩ := throughout_concat.mp each
    rw [updates, List.filterMap_append, List.filterMap_append, List.pairwise_append]
    refine ⟨ih before, ?_, ?_⟩
    · cases update : x.update? with
      | none => simp [update]
      | some u => cases number : u.sequence? <;> simp [update, number]
    intro s old t new
    obtain ⟨u, member, number⟩ := List.mem_filterMap.mp old
    obtain ⟨known, started⟩ := ended_of_mem_updates before member number
    obtain ⟨v, published, last⟩ := List.mem_filterMap.mp new
    cases x with
    | ended e =>
      have update : e.update = some v := by simpa [Event.update?] using published
      obtain ⟨same, counted⟩ := judged_update judged update
      rw [last] at same
      cases same
      have bound : ¬ e.sequence < s := fun newer => counted (.inl ⟨s, started, newer⟩)
      have other : s ≠ e.sequence := fun same => judged.2.1 (same ▸ known)
      omega
    | _ => simp [Event.update?] at published

theorem bound_event {before : List (Event α)} {x : Event α}
    (judged : Judged entitySet localizer before x) :
    (notices [x]).filter Notice.isDataBound =
      (updates [x]).filterMap (ListView.announcement? entitySet) := by
  cases x with
  | changed change own =>
    have shown : updates [.changed change own] = ([] : List (ListView α)) := rfl
    have announced : notices [.changed (α := α) change own] = own := List.append_nil own
    rw [shown, announced, List.filterMap_nil, List.filter_eq_nil_iff]
    intro n member
    obtain ⟨ids, rfl⟩ := judged n member
    exact Bool.false_ne_true
  | ended e =>
    obtain ⟨-, -, stale, counts⟩ := judged
    by_cases superseded : Superseded before e.sequence
    · obtain ⟨-, update, announced⟩ := stale superseded
      simp [notices, updates, Event.notices, Event.update?, update, announced]
    · have given := counts superseded
      unfold Completion.Counts at given
      split at given
      · obtain ⟨-, update, announced⟩ := given
        simp [notices, updates, Event.notices, Event.update?, update, announced,
          ListView.announcement?, Notice.isDataBound]
      · obtain ⟨-, announced, update⟩ := given
        cases silent : QueryError.isSilent _ <;> rw [silent] at update <;>
          simp [notices, updates, Event.notices, Event.update?, update, announced,
            ListView.announcement?]
  | began | disposed => rfl

theorem bound_updates (each : Throughout (Judged entitySet localizer) events) :
    (notices events).filter Notice.isDataBound =
      (updates events).filterMap (ListView.announcement? entitySet) := by
  induction events using List.reverseRecOn with
  | nil => rfl
  | append_singleton events x ih =>
    obtain ⟨before, judged⟩ := throughout_concat.mp each
    rw [notices, updates, List.flatMap_append, List.filter_append, List.filterMap_append,
      List.filterMap_append, ← notices, ← updates, ih before]
    exact congrArg (_ ++ ·) (bound_event judged)

theorem quiet_after_dispose (each : Throughout (Judged entitySet localizer) events)
    {before after : List (Event α)} (split : events = before ++ .disposed :: after) :
    ∀ e ∈ after, e.Quiet entitySet := by
  intro e member
  obtain ⟨front, behind, rfl⟩ := List.append_of_mem member
  have whole : events = (before ++ .disposed :: front) ++ e :: behind := by simp [split]
  have judged := each _ e behind whole
  have disposed : .disposed ∈ before ++ .disposed :: front := by simp
  cases e with
  | changed change notices =>
    exact ⟨rfl, fun n announced => ⟨⟨change, notices, rfl⟩, judged n announced⟩⟩
  | ended e =>
    obtain ⟨-, update, silent⟩ := judged.2.2.1 (.inr disposed)
    refine ⟨update, ?_⟩
    intro n announced
    rw [Event.notices, silent] at announced
    cases announced
  | began | disposed =>
    refine ⟨rfl, ?_⟩
    intro n announced
    cases announced

end

structure Orderly (entitySet : String) (localizer : Localizer) (events : List (Event α)) :
    Prop where
  increasing : ((updates events).filterMap ListView.sequence?).Pairwise (· < ·)
  /-- An update comes from the reload with the greatest number that began before. -/
  newest : ∀ before e after u, events = before ++ .ended e :: after → e.update = some u →
    u.sequence? = some e.sequence ∧ e.sequence ∈ begun before ∧ ∀ t ∈ begun before, t ≤ e.sequence
  stale : ∀ before e after, events = before ++ .ended e :: after →
    Superseded before e.sequence → e.Stale
  counts : ∀ before e after, events = before ++ .ended e :: after →
    ¬ Superseded before e.sequence → e.Counts entitySet localizer
  silent : ∀ e error, .ended e ∈ events → e.result = .error error → error.isSilent = true →
    e.update = none ∧ e.notices = []
  /-- Each loaded update has its announcement, in the same order, and there are no others. -/
  bound : (notices events).filter Notice.isDataBound =
    (updates events).filterMap (ListView.announcement? entitySet)
  closed : ∀ before after, events = before ++ .disposed :: after → ∀ e ∈ after, e.Quiet entitySet

/-- Whatever the order of events, a list publishes in order, and it shows what it published last. -/
theorem orderly_run {start c : LiveList α} {events : List (Event α)} (fresh : start.Fresh)
    (run : Run start events c) :
    Orderly start.entitySet start.localizer events ∧
      c.current = (updates events).getLast?.getD .idle := by
  obtain ⟨tracks, each⟩ := tracks_run fresh run
  refine ⟨?_, tracks.current⟩
  constructor
  case increasing => exact increasing_updates each
  case newest =>
    intro before e after u split update
    have judged := each before (.ended e) after split
    obtain ⟨number, counted⟩ := judged_update judged update
    refine ⟨number, judged.1, ?_⟩
    intro t known
    by_contra newer
    exact counted (.inl ⟨t, known, by omega⟩)
  case stale =>
    intro before e after split superseded
    exact (each before (.ended e) after split).2.2.1 superseded
  case counts =>
    intro before e after split counted
    exact (each before (.ended e) after split).2.2.2 counted
  case silent =>
    intro e error member result silent
    obtain ⟨before, after, split⟩ := List.append_of_mem member
    obtain ⟨-, -, stale, counts⟩ := each before (.ended e) after split
    by_cases superseded : Superseded before e.sequence
    · exact (stale superseded).2
    · have given := counts superseded
      rw [Completion.Counts, result] at given
      obtain ⟨-, announced, update⟩ := given
      rw [if_pos silent] at update
      exact ⟨update, announced⟩
  case bound => exact bound_updates each
  case closed =>
    intro before after split
    exact quiet_after_dispose each split

def people : LiveList Unit := { entitySet := "People", serviceRoot := "" }

/-- Of two reloads that overlap the first ends stale, and the second is shown. -/
theorem orderly_overlapping :
    ∃ events c, Run people events c ∧ Orderly "People" {} events ∧
      updates events = [.loaded 2 ⟨some 0, []⟩] ∧ c.current = .loaded 2 ⟨some 0, []⟩ := by
  have fresh : people.Fresh := ⟨rfl, rfl, rfl, rfl, rfl⟩
  have built : Run people [] people := .start
  have two := (built.more .begin).more .begin
  have first := two.more (.finish (r := ⟨1, true⟩) (by decide) (.ok ⟨some 1, [()]⟩))
  have second := first.more (.finish (r := ⟨2, false⟩) (by decide) (.ok ⟨some 0, []⟩))
  obtain ⟨orderly, current⟩ := orderly_run fresh second
  exact ⟨_, _, second, orderly, rfl, current⟩

/-- An edit announces itself, also when the list is disposed. -/
theorem notices_after_dispose :
    people.Fresh ∧ ∃ events c, Run people events c ∧
      ∃ before after, events = before ++ .disposed :: after ∧
        notices after = [.filtersChanged "People" []] := by
  have run := (Run.start.more .dispose).more (Step.change (c := people.dispose) .clearFilters)
  exact ⟨⟨rfl, rfl, rfl, rfl, rfl⟩, _, _, run, [], _, rfl, rfl⟩

end LiveList

end ODataQuery
