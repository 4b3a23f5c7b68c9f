import ODataQuery.Proofs.Listing.Publication

/-! Outstanding reloads: those that began and have not ended. All of them are cancelled but the one in
the slot, which is the newest, so that a list never waits for two answers. Once it is disposed all are
cancelled, and no other one begins. -/
namespace ODataQuery

namespace ListSession

variable {R α : Type} (around : Surroundings R α) {s : ListSession R α}

theorem reload_disposed (gone : s.list.disposed = true) : s.reload around = (s, .stale) := by
  simp [reload, LiveList.startReload, LiveList.beginReload, gone, withList]

theorem reloadTimes_disposed (gone : s.list.disposed = true) (n : Nat) :
    reloadTimes around n s = s := by
  induction n with
  | zero => rfl
  | succ n ih => rw [reloadTimes, reload_disposed around gone, ih]

theorem advance_disposed (gone : s.list.disposed = true) (n : Nat) :
    (s.advance around n).requests = s.requests ∧ (s.advance around n).calls = s.calls := by
  induction n generalizing s with
  | zero => exact ⟨rfl, rfl⟩
  | succ n ih =>
    have settled : (s.withList s.list.tick).settle around = s.withList s.list.tick.wake.1 :=
      reloadTimes_disposed around (s := s.withList s.list.tick.wake.1) gone _
    rw [advance, settled]
    exact ih gone

end ListSession

namespace LiveList

variable {α : Type}

/-- The numbers of the reloads that began and have not ended. -/
def outstanding (events : List (Event α)) : List Nat :=
  (begun events).filter fun s => s ∉ ended events

theorem outstanding_idle (events : List (Event α)) {e : Event α}
    (idle : e.began? = none ∧ e.ended? = none) : outstanding (events ++ [e]) = outstanding events := by
  simp [outstanding, begun, ended, idle]

theorem outstanding_began {events : List (Event α)} {s : Nat} (fresh : s ∉ ended events) :
    outstanding (events ++ [.began (some s)]) = outstanding events ++ [s] := by
  have started : begun (events ++ [.began (some s)]) = begun events ++ [s] := by
    simp [begun, Event.began?]
  have finished : ended (events ++ [.began (some s)]) = ended events := by
    simp [ended, Event.ended?]
  rw [outstanding, started, finished, List.filter_append, outstanding]
  simp [fresh]

theorem outstanding_ended (events : List (Event α)) (e : Completion α) :
    outstanding (events ++ [.ended e]) = (outstanding events).filter (· ≠ e.sequence) := by
  simp [outstanding, begun, ended, Event.began?, Event.ended?, List.filter_filter, and_comm]

theorem map_sequence_cancelRunning (sequence : Option Nat) (running : List Reload) :
    (cancelRunning sequence running).map (·.sequence) = running.map (·.sequence) := by
  rw [cancelRunning, List.map_map]
  refine List.map_congr_left fun r _ => ?_
  simp only [Function.comp_apply]
  split <;> rfl

theorem mem_cancelRunning_live {sequence : Option Nat} {running : List Reload} {r : Reload}
    (member : r ∈ cancelRunning sequence running) (live : r.cancelled = false) :
    r ∈ running ∧ some r.sequence ≠ sequence := by
  obtain ⟨q, before, rfl⟩ := List.mem_map.mp member
  by_cases slot : some q.sequence = sequence
  · simp [slot] at live
  · rw [if_neg slot]
    exact ⟨before, slot⟩

theorem outstanding_step {start c d : LiveList α} {events : List (Event α)} {e : Event α}
    (tracks : Tracks start events c) (same : c.running.map (·.sequence) = outstanding events)
    (step : Step c e d) : d.running.map (·.sequence) = outstanding (events ++ [e]) := by
  cases step with
  | change change =>
    rw [(change.announces c).same.running, same, outstanding_idle events ⟨rfl, rfl⟩]
  | begin =>
    unfold beginReload
    by_cases gone : c.disposed = true
    · rw [if_pos gone, same, outstanding_idle events ⟨rfl, rfl⟩]
    rw [if_neg gone]
    have fresh : c.sequence + 1 ∉ ended events := by
      intro known
      have bound := tracks.endings _ known
      rw [tracks.numbers, List.mem_range'_1] at bound
      omega
    rw [List.map_append, map_sequence_cancelRunning, same, outstanding_began fresh]
    rfl
  | @finish r running result =>
    rw [(settles_complete c r.sequence result).running, outstanding_ended, ← same, List.filter_map]
    rfl
  | dispose =>
    rw [outstanding_idle events ⟨rfl, rfl⟩, ← same]
    exact map_sequence_cancelRunning c.inFlight c.running

theorem outstanding_run {start c : LiveList α} {events : List (Event α)} (fresh : start.Fresh)
    (run : Run start events c) : c.running.map (·.sequence) = outstanding events := by
  induction run with
  | start => simp [fresh.running, outstanding, begun]
  | more before step ih => exact outstanding_step (tracks_run fresh before).1 ih step

/-- The slot holds the newest reload, as long as it is under way and not cancelled; no other one is
left uncancelled. -/
structure Guarded (c : LiveList α) : Prop where
  slot : ∀ s, c.inFlight = some s →
    s = c.sequence ∧ c.disposed = false ∧ ⟨s, false⟩ ∈ c.running
  live : ∀ r ∈ c.running, r.cancelled = false → c.inFlight = some r.sequence

theorem guarded_fresh {start : LiveList α} (fresh : start.Fresh) : start.Guarded where
  slot := by simp [fresh.inFlight]
  live := by simp [fresh.running]

theorem Guarded.same {c d : LiveList α} (guarded : c.Guarded) (same : SameReloads c d) :
    d.Guarded where
  slot := by
    rw [same.inFlight, same.sequence, same.disposed, same.running]
    exact guarded.slot
  live := by
    rw [same.inFlight, same.running]
    exact guarded.live

theorem guarded_begin {c : LiveList α} (guarded : c.Guarded) : c.beginReload.1.Guarded := by
  unfold beginReload
  by_cases gone : c.disposed = true
  · rw [if_pos gone]
    exact guarded
  rw [if_neg gone]
  constructor
  case slot =>
    intro s newest
    cases newest
    exact ⟨rfl, by simpa using gone, by simp⟩
  case live =>
    intro r member live
    rcases List.mem_append.mp member with old | new
    -- an older one that is not cancelled was in the slot, and so is cancelled now
    · obtain ⟨before, other⟩ := mem_cancelRunning_live old live
      exact absurd (guarded.live r before live).symm other
    · rw [List.mem_singleton.mp new]

theorem Guarded.inFlight_complete {c : LiveList α} (guarded : c.Guarded) (sequence : Nat)
    (result : Except QueryError (Envelope α)) :
    (c.complete sequence result).1.inFlight = c.inFlight.filter (· ≠ sequence) := by
  unfold complete endReload
  by_cases stale : c.sequence ≠ sequence ∨ c.disposed = true
  · rw [if_pos stale]
    cases held : c.inFlight with
    | none => rfl
    | some s =>
      obtain ⟨newest, live, -⟩ := guarded.slot s held
      have other : s ≠ sequence := by
        rcases stale with newer | gone
        · exact newest ▸ newer
        · exact absurd gone (by simp [live])
      exact (Option.filter_some_pos (by simpa using other)).symm
  · rw [if_neg stale]
    cases result with
    | ok rows => rfl
    | error error => cases silent : error.isSilent <;> simp [publish, silent]

theorem guarded_complete {c : LiveList α} (guarded : c.Guarded) (sequence : Nat)
    (result : Except QueryError (Envelope α)) : (c.complete sequence result).1.Guarded := by
  have settles := settles_complete c sequence result
  have slot := guarded.inFlight_complete sequence result
  constructor
  case slot =>
    intro s newest
    rw [slot, Option.filter_eq_some_iff] at newest
    obtain ⟨held, other⟩ := newest
    obtain ⟨number, live, member⟩ := guarded.slot s held
    rw [settles.sequence, settles.disposed, settles.running]
    exact ⟨number, live, List.mem_filter.mpr ⟨member, other⟩⟩
  case live =>
    intro r member live
    rw [settles.running] at member
    obtain ⟨before, other⟩ := List.mem_filter.mp member
    rw [slot, guarded.live r before live]
    exact Option.filter_eq_some_iff.mpr ⟨rfl, other⟩

theorem guarded_dispose {c : LiveList α} (guarded : c.Guarded) : c.dispose.Guarded where
  slot := by simp [dispose]
  live := by
    intro r member live
    obtain ⟨before, other⟩ := mem_cancelRunning_live member live
    exact absurd (guarded.live r before live).symm other

theorem guarded_step {c d : LiveList α} {e : Event α} (guarded : c.Guarded) (step : Step c e d) :
    d.Guarded := by
  cases step with
  | change change => exact guarded.same (change.announces c).same
  | begin => exact guarded_begin guarded
  | @finish r running result => exact guarded_complete guarded r.sequence result
  | dispose => exact guarded_dispose guarded

theorem guarded_run {start c : LiveList α} {events : List (Event α)} (fresh : start.Fresh)
    (run : Run start events c) : c.Guarded := by
  induction run with
  | start => exact guarded_fresh fresh
  | more _ step ih => exact guarded_step ih step

theorem Tracks.le_sequence {start c : LiveList α} {events : List (Event α)}
    (tracks : Tracks start events c) {t : Nat} (known : t ∈ begun events) : t ≤ c.sequence := by
  rw [tracks.numbers, List.mem_range'_1] at known
  omega

theorem begins_undisposed {start c : LiveList α} {events : List (Event α)} (fresh : start.Fresh)
    (run : Run start events c) :
    Throughout (fun before e => .disposed ∈ before → e.began? = none) events := by
  induction run with
  | start => exact throughout_nil _
  | @more events c d e run step ih =>
    refine throughout_concat.mpr ⟨ih, fun closed => ?_⟩
    have gone : c.disposed = true := (tracks_run fresh run).1.disposed.mpr closed
    cases step with
    | begin => simp [beginReload, gone, Event.began?]
    | _ => rfl

theorem begun_after_dispose {events : List (Event α)}
    (each : Throughout (fun before e => .disposed ∈ before → e.began? = none) events)
    {before after : List (Event α)} (split : events = before ++ .disposed :: after) :
    begun after = [] := by
  refine List.filterMap_eq_nil_iff.mpr fun e member => ?_
  obtain ⟨front, behind, rfl⟩ := List.append_of_mem member
  exact each (before ++ .disposed :: front) e behind (by simp [split]) (by simp)

/-- Two reloads have different numbers, and only one of them is in the slot. -/
theorem Guarded.length_live {c : LiveList α} (guarded : c.Guarded)
    (distinct : (c.running.map (·.sequence)).Nodup) :
    (c.running.filter fun r => !r.cancelled).length ≤ 1 := by
  have held : ∀ r ∈ c.running.filter fun r => !r.cancelled, c.inFlight = some r.sequence := by
    intro r member
    obtain ⟨inside, live⟩ := List.mem_filter.mp member
    exact guarded.live r inside (by simpa using live)
  have apart : ((c.running.filter fun r => !r.cancelled).map (·.sequence)).Nodup :=
    distinct.sublist (List.filter_sublist.map _)
  match live : c.running.filter fun r => !r.cancelled with
  | [] | [_] => simp [live]
  | r :: q :: rest =>
    rw [live] at apart held
    have same : some r.sequence = some q.sequence :=
      (held r (by simp)).symm.trans (held q (by simp))
    simp [Option.some.inj same] at apart

/-- What is outstanding after a history, and what of it is cancelled. -/
structure Exclusive (events : List (Event α)) (c : LiveList α) : Prop where
  running : c.running.map (·.sequence) = outstanding events
  /-- The slot is empty or holds the newest reload, which has not ended then. -/
  slot : ∀ s, c.inFlight = some s → s ∈ outstanding events ∧ ∀ t ∈ begun events, t ≤ s
  /-- A reload that is not cancelled is in the slot. -/
  held : ∀ r ∈ c.running, r.cancelled = false → c.inFlight = some r.sequence
  superseded : ∀ r ∈ c.running, (∃ t ∈ begun events, r.sequence < t) → r.cancelled = true
  disposed : .disposed ∈ events → ∀ r ∈ c.running, r.cancelled = true
  closed : ∀ before after, events = before ++ .disposed :: after → begun after = []
  /-- Neither callers nor time make a disposed list send anything. -/
  silent : .disposed ∈ events → ∀ (R : Type) (around : Surroundings R α) (s : ListSession R α)
    (n : Nat), s.list = c → s.reload around = (s, .stale) ∧
      (s.advance around n).requests = s.requests ∧ (s.advance around n).calls = s.calls
  single : (c.running.filter fun r => !r.cancelled).length ≤ 1

/-- Whatever the order of events, at most one reload is outstanding that is not cancelled, and none
when the list is disposed. -/
theorem exclusive_run {start c : LiveList α} {events : List (Event α)} (fresh : start.Fresh)
    (run : Run start events c) : Exclusive events c := by
  have tracks := (tracks_run fresh run).1
  have guarded := guarded_run fresh run
  have running := outstanding_run fresh run
  have cancelled (r : Reload) (member : r ∈ c.running) (empty : c.inFlight ≠ some r.sequence) :
      r.cancelled = true := by
    cases live : r.cancelled with
    | true => rfl
    | false => exact absurd (guarded.live r member live) empty
  constructor
  case running => exact running
  case slot =>
    intro s held
    obtain ⟨newest, -, member⟩ := guarded.slot s held
    refine ⟨running ▸ List.mem_map_of_mem member, ?_⟩
    intro t known
    exact newest ▸ tracks.le_sequence known
  case held => exact guarded.live
  case superseded =>
    rintro r member ⟨t, known, newer⟩
    refine cancelled r member fun held => ?_
    have newest := (guarded.slot _ held).1
    have bound := tracks.le_sequence known
    omega
  case disposed =>
    intro closed r member
    refine cancelled r member fun held => ?_
    have live := (guarded.slot _ held).2.1
    rw [tracks.disposed.mpr closed] at live
    cases live
  case closed =>
    intro before after split
    exact begun_after_dispose (begins_undisposed fresh run) split
  case silent =>
    rintro closed R around s n rfl
    have gone := tracks.disposed.mpr closed
    exact ⟨s.reload_disposed around gone, s.advance_disposed around gone n⟩
  case single =>
    refine guarded.length_live ?_
    rw [running, outstanding, tracks.numbers]
    exact List.Nodup.sublist List.filter_sublist List.nodup_range'

/-- Two reloads overlap until the list is disposed: the older one is cancelled by the newer one, and
that one as the list goes. -/
theorem exclusive_overlapping :
    people.Fresh ∧ ∃ events c gone, Run people events c ∧ Exclusive events c ∧
      c.inFlight = some 2 ∧ c.running = [⟨1, true⟩, ⟨2, false⟩] ∧
      Run people (events ++ [.disposed]) gone ∧ Exclusive (events ++ [.disposed]) gone ∧
      gone.inFlight = none ∧ gone.running = [⟨1, true⟩, ⟨2, true⟩] := by
  have fresh : people.Fresh := ⟨rfl, rfl, rfl, rfl, rfl⟩
  have zero : Run people [] people := .start
  have two := zero.more .begin |>.more .begin
  have disposed := two.more .dispose
  exact ⟨fresh, _, _, _, two, exclusive_run fresh two, rfl, rfl, disposed,
    exclusive_run fresh disposed, rfl, rfl⟩

end LiveList

end ODataQuery
