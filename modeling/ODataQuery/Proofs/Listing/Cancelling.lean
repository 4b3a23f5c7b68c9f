import ODataQuery.Proofs.Listing.History

/-! What goes on after a cancellation. An action that waits never begins, and the newest one stops
even if it has begun; an action under way that was overtaken by a newer call goes on to its end. -/
namespace ODataQuery.Debouncer

variable {α : Type}

def Event.stepped? : Event α → Option Nat
  | woke number (_ :: _) | resumed number (_ :: _) => some number
  | _ => none

def stepped (events : List (Event α)) : List Nat := events.filterMap Event.stepped?

inductive Follows (d : Debouncer α) : List (Event α) → Debouncer α → Prop
  | start : Follows d [] d
  | more {events : List (Event α)} {e f : Debouncer α} {x : Event α} :
      Follows d events e → Move e x f → Follows d (events ++ [x]) f

/-- An action has begun and has steps left. -/
def UnderWay (d : Debouncer α) (n : Nat) : Prop :=
  ∃ t ∈ d.tasks, t.generation = n ∧ t.begun = true ∧ t.steps ≠ []

def Overtaken (events : List (Event α)) (n : Nat) : Prop := ∃ m ∈ numbers events, n < m

section

variable {events before after : List (Event α)} {c d e f : Debouncer α} {x : Event α}

theorem Follows.cons (move : Move d x e) (follows : Follows e after f) :
    Follows d (x :: after) f := by
  induction follows with
  | start => exact Follows.start.more move
  | more _ later ih => exact ih.more later

theorem stepped_concat : stepped (events ++ [x]) = stepped events ++ x.stepped?.toList := by
  cases number : x.stepped? <;> simp [stepped, number]

/-- A task that rests again is not due, so that waking comes to an end. -/
theorem Wakes.fewer_due {t : Task α} {done : List α} (wakes : d.Wakes t done e) :
    (e.tasks.filter (Task.isDue d.now)).length < (d.tasks.filter (Task.isDue d.now)).length := by
  obtain @⟨front, back, split, due⟩ := wakes
  cases rests : (t.wake d.now d.generation).2 with
  | none => simp [split, due]
  | some u => simp [split, due, (Task.rests_of_wake rests).undue]

theorem stepped_event_iff {t : Task α} {done : List α} {n : Nat} :
    (t.event done).stepped? = some n ↔ n = t.generation ∧ done ≠ [] := by
  cases done <;> cases begun : t.begun <;> simp [Task.event, begun, Event.stepped?, eq_comm]

theorem stepped_wake {t : Task α} {done : List α} {n : Nat} (wakes : d.Wakes t done e)
    (steps : (t.event done).stepped? = some n) :
    n = t.generation ∧ t.steps ≠ [] ∧ (t.begun = true ∨ t.generation = d.generation) := by
  obtain ⟨same, works⟩ := stepped_event_iff.mp steps
  refine ⟨same, ?_, ?_⟩
  · intro none
    have own := wakes.done_prefix
    rw [none, List.map_nil, List.prefix_nil] at own
    exact works own
  · cases begun : t.begun with
    | true => exact .inl rfl
    | false => exact .inr ((wakes.starts_iff begun).mp works).2

/-- Every task stands for a call, and one that a cancellation leaves was overtaken. -/
structure Known (events : List (Event α)) (d : Debouncer α) : Prop where
  latest : ∀ n, d.latest = some n → n = d.generation
  called : ∀ t ∈ d.tasks, t.generation ∈ numbers events
  overtaken : ∀ t ∈ d.tasks, some t.generation ≠ d.latest → Overtaken events t.generation

theorem mem_numbers_append {n : Nat} (member : n ∈ numbers events) (x : Event α) :
    n ∈ numbers (events ++ [x]) := by
  rw [numbers_concat]
  exact List.mem_append_left _ member

theorem Overtaken.append {n : Nat} (overtaken : Overtaken events n) (x : Event α) :
    Overtaken (events ++ [x]) n := by
  obtain ⟨m, member, less⟩ := overtaken
  exact ⟨m, mem_numbers_append member x, less⟩

theorem Known.same (known : Known events d) (x : Event α) (latest : e.latest = d.latest)
    (generation : e.generation = d.generation)
    (tasks : ∀ t ∈ e.tasks, ∃ u ∈ d.tasks, u.generation = t.generation) :
    Known (events ++ [x]) e where
  latest := by
    rw [latest, generation]
    exact known.latest
  called := by
    intro t member
    obtain ⟨u, before, same⟩ := tasks t member
    rw [← same]
    exact mem_numbers_append (known.called u before) x
  overtaken := by
    intro t member other
    obtain ⟨u, before, same⟩ := tasks t member
    rw [← same, latest] at other
    rw [← same]
    exact (known.overtaken u before other).append x

theorem Known.cancel (known : Known events d) (x : Event α) : Known (events ++ [x]) d.cancel where
  latest := by simp [Debouncer.cancel]
  called := by
    intro t member
    exact mem_numbers_append (known.called t (List.mem_of_mem_filter member)) x
  overtaken := by
    intro t member _
    obtain ⟨before, other⟩ := List.mem_filter.mp member
    exact (known.overtaken t before (by simpa using other)).append x

theorem known_called (tracks : Tracks events d) (known : Known events d)
    (opened : d.disposed = false) (delay : Nat) (steps : List (α × Nat)) :
    Known (events ++ [.called (some (d.generation + 1)) delay steps]) (d.call delay steps) := by
  have newest : d.generation + 1 ∈
      numbers (events ++ [.called (some (d.generation + 1)) delay steps]) := by
    simp [numbers_concat, Event.number?]
  have latest : (d.call delay steps).latest = some (d.generation + 1) := by simp [call, opened]
  constructor
  case latest =>
    intro n same
    simpa [call, opened, eq_comm] using same
  case called =>
    intro t member
    rcases mem_call member with old | ⟨-, rfl⟩
    · exact mem_numbers_append (known.called t old) _
    · exact newest
  case overtaken =>
    intro t member other
    rcases mem_call member with old | ⟨-, rfl⟩
    · exact ⟨_, newest, Nat.lt_succ_of_le (tracks.numbered _ (known.called t old))⟩
    · exact absurd latest.symm other

theorem known_move (tracks : Tracks events d) (known : Known events d) (move : Move d x e) :
    Known (events ++ [x]) e := by
  cases move with
  | call delay steps =>
    cases gone : d.disposed with
    | true =>
      have same : d.call delay steps = d := by simp [call, gone]
      rw [same]
      exact known.same _ rfl rfl fun t member => ⟨t, member, rfl⟩
    | false => exact known_called tracks known gone delay steps
  | cancel => exact known.cancel _
  | dispose =>
    have marked : Known events { d with disposed := true } :=
      ⟨known.latest, known.called, known.overtaken⟩
    exact marked.cancel _
  | wake wakes =>
    have same := wakes.same
    obtain @⟨front, back, split, due⟩ := id wakes
    refine known.same _ rfl same.2.1 fun u member => ?_
    rcases wakes.mem_tasks member with old | ⟨rests, -⟩
    · exact ⟨u, old, rfl⟩
    · exact ⟨_, wakes.mem, rests.same.symm⟩
  | pass => exact known.same _ rfl rfl fun t member => ⟨t, member, rfl⟩

theorem known_run (run : Run events d) : Known events d := by
  induction run with
  | start => constructor <;> simp
  | more run move ih => exact known_move (tracks_run run) ih move

/-- A cancellation, on its own or as the list of calls is closed. -/
inductive Stops (c : Debouncer α) : Event α → Debouncer α → Prop
  | cancel : Stops c .cancelled c.cancel
  | dispose : Stops c .disposed c.dispose

theorem Stops.move (stops : Stops c x d) : Move c x d := by
  cases stops with
  | cancel => exact .cancel
  | dispose => exact .dispose

theorem Stops.same (stops : Stops c x d) :
    d.tasks = c.cancel.tasks ∧ d.generation = c.generation + 1 := by
  cases stops <;> exact ⟨rfl, rfl⟩

/-- A cancellation leaves exactly the tasks that were overtaken. -/
theorem mem_tasks_stopped_iff (run : Run before c) (stops : Stops c x d) {t : Task α} :
    t ∈ d.tasks ↔ t ∈ c.tasks ∧ Overtaken before t.generation := by
  have known := known_run run
  rw [stops.same.1, cancel, List.mem_filter, decide_eq_true_eq]
  refine and_congr_right fun member => ⟨known.overtaken t member, ?_⟩
  rintro ⟨m, called, newer⟩ latest
  have newest := known.latest _ latest.symm
  have bound := (tracks_run run).numbered m called
  omega

theorem underWay_iff (run : Run before c) (stops : Stops c x d) {n : Nat} :
    d.UnderWay n ↔ c.UnderWay n ∧ Overtaken before n := by
  constructor
  · rintro ⟨t, member, rfl, going⟩
    obtain ⟨inside, overtaken⟩ := (mem_tasks_stopped_iff run stops).mp member
    exact ⟨⟨t, inside, rfl, going⟩, overtaken⟩
  · rintro ⟨⟨t, member, rfl, going⟩, overtaken⟩
    exact ⟨t, (mem_tasks_stopped_iff run stops).mpr ⟨member, overtaken⟩, rfl, going⟩

/-- Of the tasks called for before a state only those have begun with steps left that were under way
in it. -/
structure Leaves (d e : Debouncer α) : Prop where
  newer : d.generation ≤ e.generation
  rests : ∀ t ∈ e.tasks, t.generation < d.generation → t.begun = true → t.steps ≠ [] →
    d.UnderWay t.generation

theorem Leaves.stepped (leaves : Leaves d e) (move : Move e x f) {n : Nat}
    (older : n < d.generation) (steps : x.stepped? = some n) : d.UnderWay n := by
  cases move with
  | wake wakes =>
    obtain ⟨rfl, filled, begun | newest⟩ := stepped_wake wakes steps
    · exact leaves.rests _ wakes.mem older begun filled
    · have newer := leaves.newer
      omega
  | _ => cases steps

theorem Leaves.move (leaves : Leaves d e) (move : Move e x f) : Leaves d f := by
  cases move with
  | call delay steps =>
    refine ⟨Nat.le_trans leaves.newer ?_, ?_⟩
    · unfold Debouncer.call
      split <;> simp
    · intro t member older begun
      rcases mem_call member with old | ⟨-, rfl⟩
      · exact leaves.rests t old older begun
      · cases begun
  | cancel =>
    refine ⟨Nat.le_succ_of_le leaves.newer, ?_⟩
    exact fun t member => leaves.rests t (List.mem_of_mem_filter member)
  | dispose =>
    refine ⟨Nat.le_succ_of_le leaves.newer, ?_⟩
    exact fun t member => leaves.rests t (List.mem_of_mem_filter member)
  | @wake t done f wakes =>
    have generation := wakes.same.2.1
    refine ⟨by rw [generation]; exact leaves.newer, ?_⟩
    intro u member older begun filled
    rcases wakes.mem_tasks member with old | ⟨rests, -⟩
    · exact leaves.rests u old older begun filled
    rw [rests.same] at older ⊢
    rcases rests.goes with resumed | newest
    · exact leaves.rests t wakes.mem older resumed rests.filled
    · have newer := leaves.newer
      omega
  | pass => exact ⟨leaves.newer, leaves.rests⟩

theorem leaves_follows (follows : Follows d after e) : Leaves d e := by
  induction follows with
  | start => exact ⟨Nat.le_refl _, fun t member _ begun filled => ⟨t, member, rfl, begun, filled⟩⟩
  | more _ move ih => exact ih.move move

theorem underWay_of_stepped (follows : Follows d after e) {n : Nat} (older : n < d.generation)
    (member : n ∈ stepped after) : d.UnderWay n := by
  induction follows with
  | start => cases member
  | more before move ih =>
    rw [stepped_concat] at member
    rcases List.mem_append.mp member with old | new
    · exact ih old
    · exact (leaves_follows before).stepped move older (Option.mem_toList.mp new)

end

theorem exists_stepped {d : Debouncer α} {t : Task α} (member : t ∈ d.tasks)
    (begun : t.begun = true) (filled : t.steps ≠ []) :
    ∃ after e, Follows d after e ∧ t.generation ∈ stepped after := by
  by_cases due : t.isDue d.now = true
  · obtain ⟨e, done, wakes⟩ := exists_wakes member due
    have works : done ≠ [] := by
      rw [wakes.done_eq, if_neg (by simp [begun])]
      exact mt Task.proceed_eq_nil_iff.mp filled
    refine ⟨_, e, Follows.start.more (.wake wakes), ?_⟩
    rw [stepped_concat, stepped_event_iff.mpr ⟨rfl, works⟩]
    exact List.mem_singleton_self _
  by_cases idle : ∀ u ∈ d.tasks, u.isDue d.now = false
  -- time passes when nothing is due
  · have nearer : t.due - d.tick.now < t.due - d.now := by
      simp only [Task.isDue, decide_eq_true_eq] at due
      simp only [tick]
      omega
    obtain ⟨after, e, follows, steps⟩ := exists_stepped (d := d.tick) member begun filled
    exact ⟨_, e, .cons (.pass idle) follows, by simpa [stepped, Event.stepped?] using steps⟩
  -- what else is due wakes first
  · push Not at idle
    obtain ⟨u, inside, ready⟩ := idle
    replace ready : u.isDue d.now = true := by simpa using ready
    obtain ⟨e, done, wakes⟩ := exists_wakes inside ready
    have other : t ≠ u := by
      rintro rfl
      exact due ready
    have fewer := wakes.fewer_due
    have now := wakes.same.1
    obtain ⟨after, f, follows, steps⟩ :=
      exists_stepped (d := e) (wakes.stays member other) begun filled
    refine ⟨_, f, .cons (.wake wakes) follows, ?_⟩
    rw [stepped, ← List.singleton_append, List.filterMap_append]
    exact List.mem_append_right _ steps
termination_by (t.due - d.now, (d.tasks.filter (Task.isDue d.now)).length)
decreasing_by
  · exact .left _ _ nearer
  · rw [now]
    exact .right _ fewer

section

variable {events before after : List (Event α)} {c d e : Debouncer α} {x : Event α}

/-- After it is disposed a debouncer has only the tasks it had. -/
theorem mem_tasks_of_disposed (gone : d.disposed = true) (follows : Follows d after e) :
    e.disposed = true ∧ ∀ t ∈ e.tasks, ∃ u ∈ d.tasks, u.generation = t.generation := by
  induction follows with
  | start => exact ⟨gone, fun t member => ⟨t, member, rfl⟩⟩
  | @more events e f x before move ih =>
    obtain ⟨closed, old⟩ := ih
    cases move with
    | call delay steps => simpa [call, closed] using old
    | cancel => exact ⟨closed, fun t member => old t (List.mem_of_mem_filter member)⟩
    | dispose => exact ⟨rfl, fun t member => old t (List.mem_of_mem_filter member)⟩
    | wake wakes =>
      refine ⟨wakes.same.2.2.1.trans closed, fun u member => ?_⟩
      rcases wakes.mem_tasks member with stays | ⟨rests, -⟩
      · exact old u stays
      · rw [rests.same]
        exact old _ wakes.mem
    | pass => exact ⟨closed, old⟩

theorem stepped_of_disposed (gone : d.disposed = true) (follows : Follows d after e) {n : Nat}
    (member : n ∈ stepped after) : ∃ u ∈ d.tasks, u.generation = n := by
  induction follows with
  | start => cases member
  | more before move ih =>
    rw [stepped_concat] at member
    rcases List.mem_append.mp member with old | new
    · exact ih old
    · have steps := Option.mem_toList.mp new
      cases move with
      | wake wakes =>
        rw [(stepped_event_iff.mp steps).1]
        exact (mem_tasks_of_disposed gone before).2 _ wakes.mem
      | _ => cases steps

structure Stopped (before : List (Event α)) (c : Debouncer α) (x : Event α)
    (d : Debouncer α) : Prop where
  /-- Of the actions called for before, those go on that are under way and were overtaken by a newer
  call, and no others. -/
  goes_on_iff : ∀ n ∈ numbers before, (∃ after e, Follows d after e ∧ n ∈ stepped after) ↔
    c.UnderWay n ∧ Overtaken before n
  /-- They lose none of their steps. -/
  kept : ∀ t ∈ c.tasks, Overtaken before t.generation → t ∈ d.tasks
  /-- After disposal nothing else takes a step either. -/
  closed : x = .disposed → ∀ after e, Follows d after e → ∀ n ∈ stepped after, n ∈ numbers before

/-- Whatever calls, wake-ups and steps came before, a cancellation stops exactly the actions that
wait and the newest one. -/
theorem stopped_run (run : Run before c) (stops : Stops c x d) : Stopped before c x d where
  goes_on_iff := by
    intro n called
    have older : n < d.generation := by
      rw [stops.same.2]
      exact Nat.lt_succ_of_le ((tracks_run run).numbered n called)
    rw [← underWay_iff run stops]
    constructor
    · rintro ⟨after, e, follows, steps⟩
      exact underWay_of_stepped follows older steps
    · rintro ⟨t, member, rfl, begun, filled⟩
      exact exists_stepped member begun filled
  kept := fun t member overtaken => (mem_tasks_stopped_iff run stops).mpr ⟨member, overtaken⟩
  closed := by
    rintro rfl after e follows n steps
    have gone : d.disposed = true := by
      cases stops
      rfl
    obtain ⟨u, member, rfl⟩ := stepped_of_disposed gone follows steps
    exact (known_run run).called u ((mem_tasks_stopped_iff run stops).mp member).1

end

/-- Two actions are under way as the debouncer is cancelled; the newer one stops. -/
theorem stopped_run_overlapping :
    ∃ (before : List (Event Nat)) (c : Debouncer Nat), Run before c ∧
      Stops c .cancelled c.cancel ∧ Stopped before c .cancelled c.cancel ∧
      c.UnderWay 1 ∧ Overtaken before 1 ∧ c.UnderWay 2 ∧ ¬ Overtaken before 2 := by
  have first := (Run.start (α := Nat)).more (.call 0 [(1, 2), (2, 0)]) |>.more
    (.wake (.of (show _ = [] ++ ⟨1, 0, false, [(1, 2), (2, 0)]⟩ :: _ from rfl) rfl))
  have both := first.more (.call 0 [(3, 2), (4, 0)]) |>.more
    (.wake (.of (show _ = [_] ++ ⟨2, 0, false, [(3, 2), (4, 0)]⟩ :: _ from rfl) rfl))
  refine ⟨_, _, both, .cancel, stopped_run both .cancel, ?_, ?_, ?_, ?_⟩
  · exact ⟨⟨1, 2, true, [(2, 0)]⟩, .head _, rfl, rfl, List.cons_ne_nil _ _⟩
  · exact ⟨2, by decide, by decide⟩
  · exact ⟨⟨2, 2, true, [(4, 0)]⟩, .tail _ (.head _), rfl, rfl, List.cons_ne_nil _ _⟩
  · simp [Overtaken, numbers, Event.number?, Task.event, call]

/-- An action that is under way takes another step after the cancellation, for a newer one was called
for before. -/
theorem cancel_leaves_overtaken :
    ∃ (before after : List (Event Nat)) (c d e : Debouncer Nat) (t : Task Nat), Run before c ∧
      before =
        [.called (some 1) 0 [(1, 2), (2, 0)], .woke 1 [1], .called (some 2) 100 [(3, 0)]] ∧
      Follows c.cancel after d ∧ after = [.passed, .passed] ∧ d.Wakes t [2] e ∧ t.generation = 1 := by
  have called := (Run.start (α := Nat)).more (.call 0 [(1, 2), (2, 0)]) |>.more
    (.wake (.of (show _ = [] ++ ⟨1, 0, false, [(1, 2), (2, 0)]⟩ :: _ from rfl) rfl))
    |>.more (.call 100 [(3, 0)])
  have rested := (Follows.start (d := (⟨0, 3, [⟨1, 2, true, [(2, 0)]⟩], none, false⟩ : Debouncer Nat)))
    |>.more (.pass (by decide)) |>.more (.pass (by decide))
  have resumes := @Wakes.of Nat ⟨2, 3, [⟨1, 2, true, [(2, 0)]⟩], none, false⟩
    ⟨1, 2, true, [(2, 0)]⟩ [] [] rfl rfl
  exact ⟨_, _, _, _, _, _, called, rfl, rested, rfl, resumes, rfl⟩

end ODataQuery.Debouncer
