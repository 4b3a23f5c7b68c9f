import ODataQuery.Proofs.Listing.History

/-! What a debouncer does with the actions it is called with. An action starts when its delay is over
and nothing else was asked of the debouncer since its call; all other actions are dropped. -/
namespace ODataQuery.Debouncer

variable {α : Type} {events : List (Event α)} {d e : Debouncer α} {x : Event α}

theorem mem_numbers_iff {n : Nat} : n ∈ numbers events ↔
    ∃ before delay action after, events = before ++ .called (some n) delay action :: after := by
  constructor
  · intro member
    obtain ⟨x, inside, number⟩ := List.mem_filterMap.mp member
    cases x with
    | called number delay action =>
      cases number
      obtain ⟨before, after, rfl⟩ := List.append_of_mem inside
      exact ⟨before, delay, action, after, rfl⟩
    | _ => cases number
  · rintro ⟨before, delay, action, after, rfl⟩
    simp [numbers, Event.number?]

theorem mem_started_iff {n : Nat} :
    n ∈ started events ↔ ∃ done, done ≠ [] ∧ .woke n done ∈ events := by
  constructor
  · intro member
    obtain ⟨x, inside, number⟩ := List.mem_filterMap.mp member
    obtain ⟨done, works, rfl⟩ := Event.started?_eq_some_iff.mp number
    exact ⟨done, works, inside⟩
  · rintro ⟨done, works, inside⟩
    exact List.mem_filterMap.mpr ⟨_, inside, Event.started?_eq_some_iff.mpr ⟨done, works, rfl⟩⟩

theorem mem_woken {n : Nat} {done : List α} (member : .woke n done ∈ events) :
    n ∈ Debouncer.woken events :=
  List.mem_filterMap.mpr ⟨_, member, rfl⟩

theorem numbers_undisturbed (undisturbed : Undisturbed events) : numbers events = [] := by
  refine List.filterMap_eq_nil_iff.mpr fun x member => ?_
  have quiet := undisturbed x member
  cases x <;> first | rfl | cases quiet

/-- Of the calls before an undisturbed wait, the others are earlier. -/
theorem lt_of_undisturbed {before mid : List (Event α)} {n delay m : Nat} {action : List (α × Nat)}
    (ordered : (numbers (before ++ .called (some n) delay action :: mid)).Pairwise (· < ·))
    (undisturbed : Undisturbed mid) (other : m ≠ n)
    (member : m ∈ numbers (before ++ .called (some n) delay action :: mid)) :
    m ∈ numbers before ∧ m < n := by
  have shape : numbers (before ++ .called (some n) delay action :: mid) = numbers before ++ [n] := by
    rw [numbers, List.filterMap_append, List.filterMap_cons, ← numbers, ← numbers,
      numbers_undisturbed undisturbed]
    rfl
  rw [shape] at ordered member
  have earlier : m ∈ numbers before := by simpa [other] using member
  exact ⟨earlier, (List.pairwise_append.mp ordered).2.2 m earlier n (by simp)⟩

/-- A task that is seen to wake or to go on is one of the debouncer's. -/
theorem Move.task {n : Nat} {done : List α} (move : Move d x e)
    (woke : x = .woke n done ∨ x = .resumed n done) :
    ∃ t, d.Wakes t done e ∧ t.generation = n ∧ (t.begun = true ↔ x = .resumed n done) := by
  cases move with
  | @wake t _ _ wakes =>
    cases begun : t.begun <;> simp only [Task.event, begun] at woke <;>
      rcases woke with same | same <;> cases same <;> exact ⟨t, wakes, rfl, by simp [Task.event, begun]⟩
  | _ => simp at woke

theorem ignored_iff (run : Run events d) {before after : List (Event α)} {number : Option Nat}
    {delay : Nat} {action : List (α × Nat)}
    (split : events = before ++ .called number delay action :: after) :
    number = none ↔ .disposed ∈ before := by
  obtain ⟨c, f, run, move⟩ := run.split split
  rw [← (tracks_run run).disposed]
  generalize same : Event.called number delay action = x at move
  cases move with
  | call delay steps =>
    cases same
    cases c.disposed <;> simp
  | @wake t done e wakes => cases begun : t.begun <;> simp [Task.event, begun] at same
  | _ => cases same

/-- A task wakes once, when its delay is over. It starts, with the first steps of its action, if
nothing was asked since its call. -/
theorem woke_since (run : Run events d) {before after : List (Event α)} {n : Nat} {done : List α}
    (split : events = before ++ .woke n done :: after) :
    n ∈ numbers before ∧ n ∉ Debouncer.woken before ∧
      ∀ earlier delay action mid, before = earlier ++ .called (some n) delay action :: mid →
        elapsed mid = delay ∧ done <+: action.map Prod.fst ∧
          (done ≠ [] ↔ action ≠ [] ∧ Undisturbed mid) := by
  obtain ⟨c, f, run, move⟩ := run.split split
  have tracks := tracks_run run
  obtain ⟨t, wakes, rfl, begun⟩ := move.task (.inl rfl)
  have asleep : t.begun = false := by simpa using begun
  have waits : Waits before c t := by
    refine tracks.waits t ?_
    simp [waiting, wakes.mem, asleep]
  refine ⟨waits.called, waits.asleep, ?_⟩
  intro earlier delay action mid whole
  obtain ⟨due, rfl, newest⟩ := waits.since earlier delay action mid whole
  refine ⟨?_, wakes.done_prefix, by rw [wakes.starts_iff asleep, newest]⟩
  -- time does not pass a task that is due, so it wakes at the moment it is due
  have moment : c.now = t.due := Nat.le_antisymm waits.ahead wakes.same.2.2.2
  rw [tracks.now, due, whole, elapsed_called] at moment
  exact Nat.add_left_cancel moment

/-- Time passes once the newest action that was due has started. -/
theorem passed_after (run : Run events d) {before after : List (Event α)}
    (split : events = before ++ .passed :: after) {earlier mid : List (Event α)} {n : Nat}
    {action : List (α × Nat)} (filled : action ≠ [])
    (whole : before = earlier ++ .called (some n) (elapsed mid) action :: mid)
    (undisturbed : Undisturbed mid) : n ∈ started mid := by
  obtain ⟨c, f, run, move⟩ := run.split split
  have tracks := tracks_run run
  rcases tracks.pending earlier n _ action mid whole filled undisturbed with began | ⟨t, member, rfl⟩
  · exact began
  have due := ((tracks.waits t member).since earlier _ action mid whole).1
  generalize same : Event.passed = x at move
  cases move with
  | @wake t done e wakes => cases begun : t.begun <;> simp [Task.event, begun] at same
  | pass settled =>
    have undue := settled t (List.mem_of_mem_filter member)
    have moment : c.now = t.due := by
      rw [tracks.now, due, whole, elapsed_called]
    simp [Task.isDue, moment] at undue
  | _ => cases same

theorem exists_passed {n : Nat} (more : n < elapsed events) :
    ∃ front back, events = front ++ .passed :: back ∧ elapsed front = n := by
  induction events generalizing n with
  | nil => simp [elapsed] at more
  | cons x rest ih =>
    cases passes : x.isPassed with
    | true =>
      obtain rfl : x = .passed := by
        cases x <;> first | rfl | cases passes
      cases n with
      | zero => exact ⟨[], rest, rfl, rfl⟩
      | succ n =>
        obtain ⟨front, back, rfl, counted⟩ := ih (n := n) (by simpa [elapsed, passes] using more)
        exact ⟨.passed :: front, back, rfl, by simpa [elapsed, passes] using counted⟩
    | false =>
      obtain ⟨front, back, rfl, counted⟩ := ih (by simpa [elapsed, passes] using more)
      exact ⟨x :: front, back, rfl, by simpa [elapsed, passes] using counted⟩

/-- The delay of a call is over before anything else is asked of the debouncer. -/
def Awakes (number : Option Nat) (delay : Nat) (after : List (Event α)) : Prop :=
  ∃ n ∈ number, ∃ mid done rest, after = mid ++ .woke n done :: rest ∧ elapsed mid = delay ∧
    Undisturbed mid

theorem starts_iff (run : Run events d) {before after : List (Event α)} {number : Option Nat}
    {delay : Nat} {action : List (α × Nat)}
    (split : events = before ++ .called number delay action :: after) :
    (∃ n ∈ number, n ∈ started after) ↔
      .disposed ∉ before ∧ action ≠ [] ∧ Awakes number delay after := by
  constructor
  · rintro ⟨n, rfl, begins⟩
    obtain ⟨done, works, inside⟩ := mem_started_iff.mp begins
    obtain ⟨mid, rest, rfl⟩ := List.append_of_mem inside
    have wakes : events =
        (before ++ .called (some n) delay action :: mid) ++ .woke n done :: rest := by simp [split]
    obtain ⟨moment, -, starts⟩ := (woke_since run wakes).2.2 before delay action mid rfl
    obtain ⟨filled, undisturbed⟩ := starts.mp works
    exact ⟨mt (ignored_iff run split).mpr (by simp), filled, n, rfl, mid, done, rest, rfl, moment,
      undisturbed⟩
  · rintro ⟨-, filled, n, rfl, mid, done, rest, rfl, -, undisturbed⟩
    have wakes : events =
        (before ++ .called (some n) delay action :: mid) ++ .woke n done :: rest := by simp [split]
    obtain ⟨-, -, starts⟩ := (woke_since run wakes).2.2 before delay action mid rfl
    exact ⟨n, rfl, mem_started_iff.mpr ⟨done, starts.mpr ⟨filled, undisturbed⟩, by simp⟩⟩

theorem starts_after (run : Run events d) {before mid after : List (Event α)} {number : Option Nat}
    {delay : Nat} {action : List (α × Nat)}
    (split : events = before ++ .called number delay action :: (mid ++ after))
    (opened : .disposed ∉ before) (filled : action ≠ []) (undisturbed : Undisturbed mid)
    (lapsed : delay < elapsed mid) : ∃ n ∈ number, n ∈ started mid := by
  obtain ⟨n, rfl⟩ := Option.ne_none_iff_exists'.mp (mt (ignored_iff run split).mp opened)
  obtain ⟨front, back, rfl, rfl⟩ := exists_passed lapsed
  have passes : events = (before ++ .called (some n) (elapsed front) action :: front) ++
      .passed :: (back ++ after) := by simp [split]
  have starts := passed_after run passes filled rfl fun x member => undisturbed x (by simp [member])
  refine ⟨n, rfl, ?_⟩
  rw [started, List.filterMap_append]
  exact List.mem_append_left _ starts

theorem woken_of_started {n : Nat} (member : n ∈ started events) : n ∈ Debouncer.woken events := by
  obtain ⟨done, -, inside⟩ := mem_started_iff.mp member
  exact mem_woken inside

theorem increasing_started (run : Run events d) : (started events).Pairwise (· < ·) := by
  induction run with
  | start => exact .nil
  | @more events c e x run move ih =>
    have whole := run.more move
    rw [started_concat, List.pairwise_append]
    refine ⟨ih, by cases start : x.started? <;> simp, ?_⟩
    intro m earlier n last
    obtain ⟨done, works, rfl⟩ := Event.started?_eq_some_iff.mp (Option.mem_toList.mp last)
    obtain ⟨called, asleep, moment⟩ := woke_since whole rfl
    obtain ⟨before, delay, action, mid, rfl⟩ := mem_numbers_iff.mp called
    have tracks := tracks_run run
    have woken := woken_of_started earlier
    obtain ⟨-, -, starts⟩ := moment before delay action mid rfl
    refine (lt_of_undisturbed tracks.ordered (starts.mp works).2 ?_ (tracks.woken m woken)).2
    rintro rfl
    exact asleep woken

/-- A task that rests has started its action. -/
theorem started_of_begun (run : Run events d) :
    ∀ t ∈ d.tasks, t.begun = true → t.generation ∈ started events := by
  induction run with
  | start => simp
  | @more events c e x run move ih =>
    have later {n : Nat} (member : n ∈ started events) : n ∈ started (events ++ [x]) := by
      rw [started_concat]
      exact List.mem_append_left _ member
    intro t member begun
    cases move with
    | call delay steps =>
      rcases mem_call member with old | ⟨-, rfl⟩
      · exact later (ih t old begun)
      · cases begun
    | cancel => exact later (ih t (List.mem_of_mem_filter member) begun)
    | dispose => exact later (ih t (List.mem_of_mem_filter member) begun)
    | @wake u done _ wakes =>
      rcases wakes.mem_tasks member with old | ⟨rests, works⟩
      · exact later (ih t old begun)
      rw [rests.same]
      cases before : u.begun with
      | true => exact later (ih u wakes.mem before)
      | false => exact mem_started_iff.mpr ⟨done, works, by simp [Task.event, before]⟩
    | pass => exact later (ih t member begun)

/-- With one delay for all calls, starts are as far apart. -/
theorem delay_le_apart (run : Run events d) {delay : Nat}
    (equal : ∀ n other action, .called (some n) other action ∈ events → other = delay)
    {before mid after : List (Event α)} {m n : Nat} {first second : List α}
    (split : events = before ++ .woke m first :: (mid ++ .woke n second :: after))
    (starts : first ≠ []) (begins : second ≠ []) : delay ≤ elapsed mid := by
  have later : events = (before ++ .woke m first :: mid) ++ .woke n second :: after := by simp [split]
  obtain ⟨called, asleep, moment⟩ := woke_since run later
  obtain ⟨earlier, other, action, rest, whole⟩ := mem_numbers_iff.mp called
  obtain ⟨counted, -, quiet⟩ := moment earlier other action rest whole
  have undisturbed := (quiet.mp begins).2
  have same : other = delay := equal n other action (by rw [later, whole]; simp)
  rw [← same, ← counted]
  rcases List.append_eq_append_iff.mp whole with ⟨gap, rfl, behind⟩ | ⟨gap, rfl, behind⟩
  -- the second call came after the first start
  · cases gap with
    | nil => cases behind
    | cons x gap =>
      rw [List.cons_append] at behind
      rw [(List.cons.inj behind).2, elapsed_called]
      exact Nat.le_add_left _ _
  -- the second call came before the first start, which it would have prevented
  · cases gap with
    | nil => cases behind
    | cons x gap =>
      obtain ⟨rfl, rfl⟩ := List.cons.inj behind
      obtain ⟨known, -, waited⟩ := woke_since run split
      have distinct : m ≠ n := by
        rintro rfl
        have woke : Event.woke m first ∈
            (earlier ++ .called (some m) other action :: gap) ++ .woke m first :: mid := by simp
        exact asleep (mem_woken woke)
      have still : Undisturbed gap := fun y member => undisturbed y (by simp [member])
      obtain ⟨c, f, reached, -⟩ := run.split split
      obtain ⟨older, -⟩ := lt_of_undisturbed (tracks_run reached).ordered still distinct known
      obtain ⟨front, longer, steps, back, rfl⟩ := mem_numbers_iff.mp older
      obtain ⟨-, -, unasked⟩ := waited front longer steps
        (back ++ .called (some n) other action :: gap) (by simp)
      exact absurd ((unasked.mp starts).2 (.called (some n) other action) (by simp))
        (by simp [Event.isRequest])

/-- What happens to the actions that are called for. An action starts with its first step, so one
without any never does. -/
structure Debounced (events : List (Event α)) : Prop where
  ignored : ∀ before number delay action after,
    events = before ++ .called number delay action :: after → (number = none ↔ .disposed ∈ before)
  /-- The numbers of the other calls grow, so that each of them stands for one call. -/
  numbered : (numbers events).Pairwise (· < ·)
  starts_iff : ∀ before number delay action after,
    events = before ++ .called number delay action :: after →
      ((∃ n ∈ number, n ∈ started after) ↔
        .disposed ∉ before ∧ action ≠ [] ∧ Awakes number delay after)
  /-- No task wakes early or late, and it starts no other action than its own. -/
  punctual : ∀ before n delay action mid done after,
    events = before ++ .called (some n) delay action :: (mid ++ .woke n done :: after) →
      elapsed mid = delay ∧ done <+: action.map Prod.fst
  goes_on : ∀ before n done after, events = before ++ .resumed n done :: after → n ∈ started before
  /-- An action whose delay is over has started if nothing was asked since its call. -/
  starts_after : ∀ before number delay action mid after,
    events = before ++ .called number delay action :: (mid ++ after) → .disposed ∉ before →
      action ≠ [] → Undisturbed mid → delay < elapsed mid → ∃ n ∈ number, n ∈ started mid
  /-- Actions start in the order of their calls, each of them once. -/
  increasing : (started events).Pairwise (· < ·)
  apart : ∀ delay, (∀ n other action, .called (some n) other action ∈ events → other = delay) →
    ∀ before m first mid n second after,
      events = before ++ .woke m first :: (mid ++ .woke n second :: after) →
        first ≠ [] → second ≠ [] → delay ≤ elapsed mid

theorem debounced_of_run (run : Run events d) : Debounced events where
  ignored _ _ _ _ _ split := ignored_iff run split
  numbered := (tracks_run run).ordered
  starts_iff _ _ _ _ _ split := starts_iff run split
  punctual before n delay action mid done after split := by
    have wakes : events =
        (before ++ .called (some n) delay action :: mid) ++ .woke n done :: after := by simp [split]
    obtain ⟨moment, own, -⟩ := (woke_since run wakes).2.2 before delay action mid rfl
    exact ⟨moment, own⟩
  goes_on before n done after split := by
    obtain ⟨c, f, reached, move⟩ := run.split split
    obtain ⟨t, wakes, rfl, begun⟩ := move.task (.inr rfl)
    exact started_of_begun reached t wakes.mem (begun.mpr rfl)
  starts_after _ _ _ _ _ _ split opened filled undisturbed lapsed :=
    starts_after run split opened filled undisturbed lapsed
  increasing := increasing_started run
  apart _ equal _ _ _ _ _ _ _ split starts begins := delay_le_apart run equal split starts begins

/-- Whatever the order of calls, wake-ups and time, an action starts exactly when its delay is over
with nothing else asked of the debouncer since its call. What the debouncer does as it runs on by
itself is told by a history that goes on. -/
theorem debounced_run (run : Run events d) : Debounced events ∧ ∀ n, ∃ more,
    Run (events ++ more) (advance n d.wake.1).1 ∧ Debounced (events ++ more) ∧ Undisturbed more ∧
      elapsed more = n ∧ deeds more = d.wake.2 ++ (advance n d.wake.1).2 := by
  refine ⟨debounced_of_run run, fun n => ?_⟩
  obtain ⟨more, further, told⟩ := run_advance run n
  exact ⟨more, further, debounced_of_run further, told⟩

/-- Of two calls the second comes before the delay of the first is over. -/
theorem debounced_run_burst :
    ∃ (events : List (Event String)) (d : Debouncer String), Run events d ∧ Debounced events ∧
      numbers events = [1, 2] ∧ elapsed events = 3 ∧ started events = [2] ∧
      deeds events = ["second"] := by
  have called := (Run.start (α := String)).more (.call 2 [("first", 0)]) |>.more (.pass (by decide))
    |>.more (.call 2 [("second", 0)]) |>.more (.pass (by decide))
  have dropped := called.more
    (.wake (.of (show _ = [] ++ ⟨1, 2, false, [("first", 0)]⟩ :: _ from rfl) rfl))
  have waited := dropped.more (.pass (by decide))
  have starts := waited.more
    (.wake (.of (show _ = [] ++ ⟨2, 3, false, [("second", 0)]⟩ :: _ from rfl) rfl))
  exact ⟨_, _, starts, (debounced_run starts).1, rfl, rfl, rfl, rfl⟩

end ODataQuery.Debouncer
