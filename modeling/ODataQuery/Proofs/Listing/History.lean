import Mathlib.Data.List.Nodup
import ODataQuery.Proofs.Listing.Waking

/-! Histories of debouncers. Calls, cancellations, disposal, tasks that wake and time follow each
other in any order, but no time passes while a task is due. A history tells which tasks wait at its
end and since when, and the debouncer that runs has a history of its own. -/
namespace ODataQuery.Debouncer

variable {α : Type}

inductive Event (α : Type)
  /-- An action is called for. The call has a number, unless it is ignored. -/
  | called (number : Option Nat) (delay : Nat) (action : List (α × Nat))
  | cancelled
  | disposed
  /-- The delay of a call is over, and this is what its task does. -/
  | woke (number : Nat) (done : List α)
  /-- A task goes on after a rest. -/
  | resumed (number : Nat) (done : List α)
  /-- A millisecond is over. -/
  | passed
  deriving DecidableEq

namespace Event

def isRequest : Event α → Bool
  | called _ _ _ | cancelled | disposed => true
  | _ => false

def isPassed : Event α → Bool
  | passed => true
  | _ => false

def number? : Event α → Option Nat
  | called number _ _ => number
  | _ => none

def woken? : Event α → Option Nat
  | woke number _ => some number
  | _ => none

/-- An action starts if its task does something as it wakes. -/
def started? : Event α → Option Nat
  | woke number (_ :: _) => some number
  | _ => none

def done : Event α → List α
  | woke _ done | resumed _ done => done
  | _ => []

end Event

def numbers (events : List (Event α)) : List Nat := events.filterMap Event.number?

def woken (events : List (Event α)) : List Nat := events.filterMap Event.woken?

def started (events : List (Event α)) : List Nat := events.filterMap Event.started?

/-- What the tasks did, step after step. -/
def deeds (events : List (Event α)) : List α := events.flatMap Event.done

def elapsed (events : List (Event α)) : Nat := events.countP Event.isPassed

def Undisturbed (events : List (Event α)) : Prop := ∀ e ∈ events, e.isRequest = false

/-- What is seen of a task that wakes and does this. -/
def Task.event (t : Task α) (done : List α) : Event α :=
  if t.begun then .resumed t.generation done else .woke t.generation done

inductive Move (d : Debouncer α) : Event α → Debouncer α → Prop
  | call (delay : Nat) (steps : List (α × Nat)) :
      Move d (.called (if d.disposed then none else some (d.generation + 1)) delay steps)
        (d.call delay steps)
  | cancel : Move d .cancelled d.cancel
  | dispose : Move d .disposed d.dispose
  | wake {t : Task α} {done : List α} {e : Debouncer α} (wakes : d.Wakes t done e) :
      Move d (t.event done) e
  | pass (settled : ∀ t ∈ d.tasks, t.isDue d.now = false) : Move d .passed d.tick

/-- The histories of a debouncer from its beginning. -/
inductive Run : List (Event α) → Debouncer α → Prop
  | start : Run [] {}
  | more {events : List (Event α)} {d e : Debouncer α} {x : Event α} :
      Run events d → Move d x e → Run (events ++ [x]) e

section

variable {events before mid : List (Event α)} {e x : Event α}

theorem concat_eq_split_iff : events ++ [x] = before ++ e :: mid ↔
    (before = events ∧ e = x ∧ mid = []) ∨
      ∃ front, events = before ++ e :: front ∧ mid = front ++ [x] := by
  constructor
  · intro split
    rcases List.eq_nil_or_concat mid with rfl | ⟨front, y, rfl⟩
    · obtain ⟨rfl, same⟩ := List.append_inj' split rfl
      exact .inl ⟨rfl, (List.cons.inj same).1.symm, rfl⟩
    · have whole : events ++ [x] = (before ++ e :: front) ++ [y] := by simpa using split
      obtain ⟨rfl, same⟩ := List.append_inj' whole rfl
      exact .inr ⟨front, rfl, by rw [(List.cons.inj same).1]; simp⟩
  · rintro (⟨rfl, rfl, rfl⟩ | ⟨front, rfl, rfl⟩) <;> simp

theorem exists_front_of_concat {n delay : Nat} {action : List (α × Nat)} (other : x.number? = none)
    (split : events ++ [x] = before ++ .called (some n) delay action :: mid) :
    ∃ front, events = before ++ .called (some n) delay action :: front ∧ mid = front ++ [x] := by
  rcases concat_eq_split_iff.mp split with ⟨-, rfl, -⟩ | inside
  · cases other
  · exact inside

theorem undisturbed_concat : Undisturbed (mid ++ [x]) ↔ Undisturbed mid ∧ x.isRequest = false := by
  simp [Undisturbed, or_imp, forall_and]

theorem elapsed_append (first second : List (Event α)) :
    elapsed (first ++ second) = elapsed first + elapsed second :=
  List.countP_append

theorem elapsed_called (number : Option Nat) (delay : Nat) (action : List (α × Nat)) :
    elapsed (before ++ .called number delay action :: mid) = elapsed before + elapsed mid := by
  simp [elapsed, Event.isPassed]

/-- Any event of a history is a move out of what the events before it led to. -/
theorem Run.split {d : Debouncer α} (run : Run events d) (whole : events = before ++ e :: mid) :
    ∃ (c f : Debouncer α), Run before c ∧ Move c e f := by
  induction run generalizing mid with
  | start => simp at whole
  | more run move ih =>
    rcases concat_eq_split_iff.mp whole with ⟨rfl, rfl, -⟩ | ⟨front, inside, -⟩
    · exact ⟨_, _, run, move⟩
    · exact ih inside

end

def waiting (d : Debouncer α) : List (Task α) := d.tasks.filter fun t => !t.begun

theorem waiting_call {d : Debouncer α} (opened : d.disposed = false) (delay : Nat)
    (steps : List (α × Nat)) : (d.call delay steps).waiting =
      d.waiting ++ [⟨d.generation + 1, d.now + delay, false, steps⟩] := by
  simp [call, opened, waiting]

theorem waiting_cancel (d : Debouncer α) : d.cancel.waiting.Sublist d.waiting :=
  List.filter_sublist.filter _

/-- What waking does to the tasks that wait: the one that wakes is no longer among them. -/
theorem Wakes.waiting {d e : Debouncer α} {t : Task α} {done : List α} (wakes : d.Wakes t done e) :
    t.begun = true ∧ e.waiting = d.waiting ∨
      t.begun = false ∧ ∃ front back, d.waiting = front ++ t :: back ∧ e.waiting = front ++ back := by
  obtain @⟨before, after, split, due⟩ := wakes
  have rest : (t.wake d.now d.generation).2.toList.filter (fun u => !u.begun) = [] := by
    cases rests : (t.wake d.now d.generation).2 with
    | none => rfl
    | some u => simp [(Task.rests_of_wake rests).begun]
  cases begun : t.begun with
  | true =>
    refine .inl ⟨rfl, ?_⟩
    simp [Debouncer.waiting, split, begun, rest]
  | false =>
    refine .inr ⟨rfl, before.filter fun u => !u.begun, after.filter fun u => !u.begun, ?_, ?_⟩
    · simp [Debouncer.waiting, split, begun]
    · simp [Debouncer.waiting, rest]

theorem Wakes.same {d e : Debouncer α} {t : Task α} {done : List α} (wakes : d.Wakes t done e) :
    e.now = d.now ∧ e.generation = d.generation ∧ e.disposed = d.disposed ∧ t.due ≤ d.now := by
  obtain ⟨-, due⟩ := wakes
  exact ⟨rfl, rfl, rfl, by simpa [Task.isDue] using due⟩

/-- A task waits for the delay of its call, and is the newest as long as nothing was asked since. -/
structure Waits (events : List (Event α)) (d : Debouncer α) (t : Task α) : Prop where
  called : t.generation ∈ numbers events
  asleep : t.generation ∉ woken events
  ahead : d.now ≤ t.due
  since : ∀ before delay action mid,
    events = before ++ .called (some t.generation) delay action :: mid →
      t.due = elapsed before + delay ∧ t.steps = action ∧
        (t.generation = d.generation ↔ Undisturbed mid)

structure Tracks (events : List (Event α)) (d : Debouncer α) : Prop where
  now : d.now = elapsed events
  disposed : d.disposed = true ↔ .disposed ∈ events
  closed : d.disposed = true → ∀ t ∈ d.waiting, t.generation ≠ d.generation
  numbered : ∀ n ∈ numbers events, n ≤ d.generation
  ordered : (numbers events).Pairwise (· < ·)
  woken : ∀ n ∈ woken events, n ∈ numbers events
  distinct : (d.waiting.map (·.generation)).Nodup
  waits : ∀ t ∈ d.waiting, Waits events d t
  /-- The newest call either has started its action, or its task waits. -/
  pending : ∀ before n delay action mid, events = before ++ .called (some n) delay action :: mid →
    action ≠ [] → Undisturbed mid → n ∈ started mid ∨ ∃ t ∈ d.waiting, t.generation = n

theorem tracks_start : Tracks [] ({} : Debouncer α) := by
  constructor <;> simp [elapsed, numbers, Debouncer.woken, waiting]

section

variable {events : List (Event α)} {d e : Debouncer α} {x : Event α}

theorem numbers_concat (x : Event α) : numbers (events ++ [x]) = numbers events ++ x.number?.toList := by
  cases number : x.number? <;> simp [numbers, number]

theorem woken_concat (x : Event α) : Debouncer.woken (events ++ [x]) =
    Debouncer.woken events ++ x.woken?.toList := by
  cases number : x.woken? <;> simp [Debouncer.woken, number]

theorem started_concat (x : Event α) : started (events ++ [x]) = started events ++ x.started?.toList := by
  cases number : x.started? <;> simp [started, number]

theorem elapsed_concat (x : Event α) :
    elapsed (events ++ [x]) = elapsed events + if x.isPassed then 1 else 0 := by
  cases same : x.isPassed <;> simp [elapsed, same]

/-- After an event that is no request the tasks wait that did not wake. -/
theorem tracks_unasked (tracks : Tracks events d) (idle : x.isRequest = false)
    (waiting : e.waiting.Sublist d.waiting) (generation : e.generation = d.generation)
    (disposed : e.disposed = d.disposed) (now : e.now = elapsed (events ++ [x]))
    (ahead : ∀ t ∈ e.waiting, e.now ≤ t.due) (asleep : ∀ t ∈ e.waiting, x.woken? ≠ some t.generation)
    (known : ∀ n ∈ x.woken?, n ∈ numbers events)
    (left : ∀ t ∈ d.waiting, t.steps ≠ [] → t.generation = d.generation →
      x.started? = some t.generation ∨ t ∈ e.waiting) : Tracks (events ++ [x]) e := by
  have number : x.number? = none := by
    cases x <;> first | rfl | cases idle
  have other : .disposed ≠ x := by
    rintro rfl
    cases idle
  constructor
  case now => exact now
  case disposed => simp [disposed, tracks.disposed, other]
  case closed =>
    rw [disposed, generation]
    exact fun gone t member => tracks.closed gone t (waiting.subset member)
  case numbered => simpa [numbers_concat, number, generation] using tracks.numbered
  case ordered => simpa [numbers_concat, number] using tracks.ordered
  case woken =>
    intro n member
    rw [woken_concat] at member
    rw [numbers_concat]
    refine List.mem_append_left _ ?_
    rcases List.mem_append.mp member with old | new
    · exact tracks.woken n old
    · exact known n (Option.mem_toList.mp new)
  case distinct => exact tracks.distinct.sublist (waiting.map _)
  case waits =>
    intro t member
    have waits := tracks.waits t (waiting.subset member)
    constructor
    case called => simpa [numbers_concat, number] using waits.called
    case asleep => simpa [woken_concat, waits.asleep] using asleep t member
    case ahead => exact ahead t member
    case since =>
      intro before delay action mid split
      obtain ⟨front, earlier, rfl⟩ := exists_front_of_concat number split
      rw [generation, undisturbed_concat, and_iff_left idle]
      exact waits.since before delay action front earlier
  case pending =>
    intro before n delay action mid split filled undisturbed
    obtain ⟨front, earlier, rfl⟩ := exists_front_of_concat number split
    have quiet := (undisturbed_concat.mp undisturbed).1
    rw [started_concat]
    rcases tracks.pending before n delay action front earlier filled quiet with began | ⟨t, member, rfl⟩
    · exact .inl (List.mem_append_left _ began)
    obtain ⟨-, rfl, newest⟩ := (tracks.waits t member).since before delay action front earlier
    rcases left t member filled (newest.mpr quiet) with starts | stays
    · exact .inl (List.mem_append_right _ (Option.mem_toList.mpr starts))
    · exact .inr ⟨t, stays, rfl⟩

/-- After a request that begins nothing no task is the newest. -/
theorem tracks_withdrawn (tracks : Tracks events d) (request : x.isRequest = true)
    (uncalled : x.number? = none) (waiting : e.waiting.Sublist d.waiting)
    (older : ∀ t ∈ e.waiting, t.generation ≠ e.generation) (grows : d.generation ≤ e.generation)
    (now : e.now = d.now) (disposed : e.disposed = true ↔ .disposed ∈ events ++ [x]) :
    Tracks (events ++ [x]) e := by
  have unwoken : x.woken? = none := by
    cases x <;> first | rfl | cases request
  have timeless : x.isPassed = false := by
    cases x <;> first | rfl | cases request
  constructor
  case now => simp [now, elapsed_concat, timeless, tracks.now]
  case disposed => exact disposed
  case closed => exact fun _ => older
  case numbered =>
    intro n member
    exact Nat.le_trans (tracks.numbered n (by simpa [numbers_concat, uncalled] using member)) grows
  case ordered => simpa [numbers_concat, uncalled] using tracks.ordered
  case woken => simpa [numbers_concat, woken_concat, uncalled, unwoken] using tracks.woken
  case distinct => exact tracks.distinct.sublist (waiting.map _)
  case waits =>
    intro t member
    have waits := tracks.waits t (waiting.subset member)
    constructor
    case called => simpa [numbers_concat, uncalled] using waits.called
    case asleep => simpa [woken_concat, unwoken] using waits.asleep
    case ahead => exact now ▸ waits.ahead
    case since =>
      intro before delay action mid split
      obtain ⟨front, earlier, rfl⟩ := exists_front_of_concat uncalled split
      obtain ⟨due, same, -⟩ := waits.since before delay action front earlier
      refine ⟨due, same, iff_of_false (older t member) ?_⟩
      simp [undisturbed_concat, request]
  case pending =>
    intro before n delay action mid split _ undisturbed
    obtain ⟨front, -, rfl⟩ := exists_front_of_concat uncalled split
    simp [undisturbed_concat, request] at undisturbed

theorem tracks_called (tracks : Tracks events d) (opened : d.disposed = false) (delay : Nat)
    (steps : List (α × Nat)) :
    Tracks (events ++ [.called (some (d.generation + 1)) delay steps]) (d.call delay steps) := by
  have shape : d.call delay steps = { d with
      generation := d.generation + 1
      tasks := d.tasks ++ [⟨d.generation + 1, d.now + delay, false, steps⟩]
      latest := some (d.generation + 1) } := by simp [call, opened]
  have waiting := waiting_call opened delay steps
  have numbers (n : Nat) (known : n ∈ Debouncer.numbers events) : n ≠ d.generation + 1 := by
    have bound := tracks.numbered n known
    omega
  have unwoken : d.generation + 1 ∉ Debouncer.woken events :=
    fun known => numbers _ (tracks.woken _ known) rfl
  have unknown (before : List (Event α)) (delay : Nat) (action : List (α × Nat))
      (front : List (Event α)) :
      events ≠ before ++ .called (some (d.generation + 1)) delay action :: front := by
    rintro rfl
    exact numbers (d.generation + 1) (by simp [Debouncer.numbers, Event.number?]) rfl
  constructor
  case now => simp [shape, elapsed_concat, Event.isPassed, tracks.now]
  case disposed => simp [shape, tracks.disposed]
  case closed => simp [shape, opened]
  case numbered =>
    intro n member
    rw [numbers_concat] at member
    rcases List.mem_append.mp member with old | new
    · simpa [shape] using Nat.le_succ_of_le (tracks.numbered n old)
    · simp [shape, Event.number?] at new ⊢
      omega
  case ordered =>
    rw [numbers_concat, List.pairwise_append]
    refine ⟨tracks.ordered, by simp [Event.number?], ?_⟩
    intro n known m new
    have bound := tracks.numbered n known
    simp [Event.number?] at new
    omega
  case woken =>
    intro n member
    rw [numbers_concat]
    exact List.mem_append_left _ (tracks.woken n (by simpa [woken_concat, Event.woken?] using member))
  case distinct =>
    rw [waiting, List.map_append, List.nodup_append]
    refine ⟨tracks.distinct, by simp, ?_⟩
    rintro n old m new
    obtain ⟨t, member, rfl⟩ := List.mem_map.mp old
    rw [List.mem_singleton.mp new]
    exact numbers _ (tracks.waits t member).called
  case waits =>
    intro t member
    rw [waiting] at member
    rcases List.mem_append.mp member with old | new
    · have waits := tracks.waits t old
      have other := numbers _ waits.called
      constructor
      case called => simp [numbers_concat, waits.called]
      case asleep => simpa [woken_concat, Event.woken?] using waits.asleep
      case ahead => simpa [shape] using waits.ahead
      case since =>
        intro before delay action mid split
        rcases concat_eq_split_iff.mp split with ⟨-, same, -⟩ | ⟨front, earlier, rfl⟩
        · simp [other] at same
        · obtain ⟨due, same, -⟩ := waits.since before _ _ front earlier
          refine ⟨due, same, iff_of_false ?_ ?_⟩
          · simpa [shape] using other
          · simp [undisturbed_concat, Event.isRequest]
    · cases List.mem_singleton.mp new
      constructor
      case called => simp [numbers_concat, Event.number?]
      case asleep => simpa [woken_concat, Event.woken?] using unwoken
      case ahead => simp [shape]
      case since =>
        intro before delay action mid split
        rcases concat_eq_split_iff.mp split with ⟨rfl, same, rfl⟩ | ⟨front, earlier, -⟩
        · cases same
          simp [shape, tracks.now, Undisturbed]
        · exact absurd earlier (unknown before delay action front)
  case pending =>
    intro before n delay action mid split _ undisturbed
    rcases concat_eq_split_iff.mp split with ⟨-, same, -⟩ | ⟨front, -, rfl⟩
    · cases same
      exact .inr ⟨_, by rw [waiting]; exact List.mem_append_right _ (List.mem_singleton_self _), rfl⟩
    · simp [undisturbed_concat, Event.isRequest] at undisturbed

theorem Event.started?_eq_some_iff {n : Nat} : x.started? = some n ↔ ∃ done, done ≠ [] ∧ x = .woke n done := by
  cases x with
  | woke m done => cases done <;> simp [started?]
  | _ => simp [started?]

/-- The task of a call does something as it wakes just when it is the newest and has a step to take. -/
theorem Wakes.starts_iff {t : Task α} {done : List α} (wakes : d.Wakes t done e)
    (begun : t.begun = false) : done ≠ [] ↔ t.steps ≠ [] ∧ t.generation = d.generation := by
  rw [wakes.done_eq]
  by_cases newest : t.generation = d.generation <;>
    simp [begun, newest, Task.proceed_eq_nil_iff]

theorem Queued.event_of_mem (queued : d.Queued) {t : Task α} (member : t ∈ d.tasks)
    (done : List α) : t.event done = .woke t.generation done := by
  rw [Task.event, if_neg (by simp [queued.waits t member])]

theorem tracks_wakes (tracks : Tracks events d) {t : Task α} {done : List α}
    (wakes : d.Wakes t done e) : Tracks (events ++ [t.event done]) e := by
  obtain ⟨now, generation, disposed, -⟩ := wakes.same
  rcases wakes.waiting with ⟨begun, same⟩ | ⟨begun, front, back, split, left⟩
  · rw [Task.event, if_pos begun]
    refine tracks_unasked tracks rfl (same ▸ .refl _) generation disposed ?_ ?_ ?_ ?_ ?_
    · simp [now, elapsed_concat, Event.isPassed, tracks.now]
    · exact fun u member => now ▸ (tracks.waits u (same ▸ member)).ahead
    · simp [Event.woken?]
    · simp [Event.woken?]
    · exact fun u member _ _ => .inr (same ▸ member)
  · rw [Task.event, if_neg (by simp [begun])]
    have waits := tracks.waits t (by simp [split])
    have sublist : e.waiting.Sublist d.waiting := by
      rw [split, left]
      exact (List.sublist_cons_self t back).append_left front
    have distinct := tracks.distinct
    rw [split, List.map_append, List.map_cons, List.nodup_middle, ← List.map_append, ← left,
      List.nodup_cons] at distinct
    refine tracks_unasked tracks rfl sublist generation disposed ?_ ?_ ?_ ?_ ?_
    · simp [now, elapsed_concat, Event.isPassed, tracks.now]
    · exact fun u member => now ▸ (tracks.waits u (sublist.subset member)).ahead
    · intro u member same
      exact distinct.1 (List.mem_map.mpr ⟨u, member, (Option.some.inj same).symm⟩)
    · rintro n ⟨⟩
      exact waits.called
    · intro u member filled newest
      rw [split] at member
      by_cases same : u = t
      · subst same
        have starts := (wakes.starts_iff begun).mpr ⟨filled, newest⟩
        exact .inl (Event.started?_eq_some_iff.mpr ⟨done, starts, rfl⟩)
      · exact .inr (by simpa [left, same] using member)

theorem tracks_pass (tracks : Tracks events d) (settled : ∀ t ∈ d.tasks, t.isDue d.now = false) :
    Tracks (events ++ [.passed]) d.tick := by
  have later : ∀ t ∈ d.waiting, d.now + 1 ≤ t.due := by
    intro t member
    have undue := settled t (List.mem_of_mem_filter member)
    simp only [Task.isDue, decide_eq_false_iff_not] at undue
    omega
  refine tracks_unasked tracks rfl (.refl _) rfl rfl ?_ later ?_ ?_ ?_
  · simp [tick, elapsed_concat, Event.isPassed, tracks.now]
  · simp [Event.woken?]
  · simp [Event.woken?]
  · exact fun t member _ _ => .inr member

theorem Tracks.older (tracks : Tracks events d) {t : Task α} (member : t ∈ d.waiting) :
    t.generation < d.generation + 1 :=
  Nat.lt_succ_of_le (tracks.numbered _ (tracks.waits t member).called)

theorem tracks_move (tracks : Tracks events d) (move : Move d x e) : Tracks (events ++ [x]) e := by
  cases move with
  | call delay steps =>
    cases gone : d.disposed with
    | true =>
      have same : d.call delay steps = d := by simp [call, gone]
      rw [if_pos rfl, same]
      refine tracks_withdrawn tracks rfl rfl (.refl _) (tracks.closed gone) (Nat.le_refl _) rfl ?_
      simp [tracks.disposed]
    | false => exact tracks_called tracks gone delay steps
  | cancel =>
    refine tracks_withdrawn tracks rfl rfl (waiting_cancel d) ?_ (Nat.le_succ _) rfl ?_
    · exact fun t member => Nat.ne_of_lt (tracks.older ((waiting_cancel d).subset member))
    · simp [cancel, tracks.disposed]
  | dispose =>
    have sublist : d.dispose.waiting.Sublist d.waiting := waiting_cancel _
    refine tracks_withdrawn tracks rfl rfl sublist ?_ (Nat.le_succ _) rfl ?_
    · exact fun t member => Nat.ne_of_lt (tracks.older (sublist.subset member))
    · simp [dispose, cancel]
  | wake wakes => exact tracks_wakes tracks wakes
  | pass settled => exact tracks_pass tracks settled

theorem tracks_run (run : Run events d) : Tracks events d := by
  induction run with
  | start => exact tracks_start
  | more _ move ih => exact tracks_move ih move

theorem settled_wake (d : Debouncer α) : ∀ t ∈ d.wake.1.tasks, t.isDue d.now = false := by
  intro t member
  rcases List.mem_append.mp member with waits | rests
  · simpa using (List.mem_filter.mp waits).2
  · obtain ⟨result, woken, rests⟩ := List.mem_filterMap.mp rests
    obtain ⟨u, -, rfl⟩ := List.mem_map.mp woken
    exact (Task.rests_of_wake rests).undue

/-- It makes no difference whether the first task that is due wakes on its own or with the others. -/
theorem wake_of_split {t : Task α} {front back : List (Task α)} (split : d.tasks = front ++ t :: back)
    (undue : ∀ u ∈ front, u.isDue d.now = false) (due : t.isDue d.now = true) :
    let after := { d with tasks := front ++ back ++ (t.wake d.now d.generation).2.toList }.wake
    after.1 = d.wake.1 ∧ (t.wake d.now d.generation).1 ++ after.2 = d.wake.2 := by
  have waits : front.filter (fun u => !u.isDue d.now) = front :=
    List.filter_eq_self.mpr fun u member => by simp [undue u member]
  have none : front.filter (Task.isDue d.now) = [] :=
    List.filter_eq_nil_iff.mpr fun u member => by simp [undue u member]
  cases rests : (t.wake d.now d.generation).2 with
  | none => simp [wake, split, due, waits, none, rests]
  | some u => simp [wake, split, due, waits, none, rests, (Task.rests_of_wake rests).undue]

@[simp] theorem Task.isRequest_event (t : Task α) (done : List α) :
    (t.event done).isRequest = false := by
  unfold event
  split <;> rfl

@[simp] theorem Task.isPassed_event (t : Task α) (done : List α) :
    (t.event done).isPassed = false := by
  unfold event
  split <;> rfl

@[simp] theorem Task.done_event (t : Task α) (done : List α) : (t.event done).done = done := by
  unfold event
  split <;> rfl

/-- Tasks that wake together wake one after the other, and do the same. -/
theorem run_wake (run : Run events d) :
    ∃ more, Run (events ++ more) d.wake.1 ∧ Undisturbed more ∧ elapsed more = 0 ∧
      deeds more = d.wake.2 := by
  induction size : (d.tasks.filter (Task.isDue d.now)).length generalizing events d with
  | zero =>
    have none := List.length_eq_zero_iff.mp size
    have waits : d.tasks.filter (fun t => !t.isDue d.now) = d.tasks := by
      simpa [List.filter_eq_self, List.filter_eq_nil_iff] using none
    refine ⟨[], ?_, by simp [Undisturbed], rfl, by simp [deeds, wake, none]⟩
    simpa [wake, none, waits] using run
  | succ count ih =>
    obtain ⟨t, more, shape⟩ := List.exists_cons_of_length_eq_add_one size
    obtain ⟨front, back, split, undue, due, others⟩ := List.filter_eq_cons_iff.mp shape
    have undue : ∀ u ∈ front, u.isDue d.now = false := fun u member => by simpa using undue u member
    have fewer : ((front ++ back ++ (t.wake d.now d.generation).2.toList).filter
        (Task.isDue d.now)).length = count := by
      rw [shape, List.length_cons, ← others] at size
      have none : front.filter (Task.isDue d.now) = [] :=
        List.filter_eq_nil_iff.mpr fun u member => by simp [undue u member]
      cases rests : (t.wake d.now d.generation).2 with
      | none => simpa [none] using size
      | some u => simpa [none, (Task.rests_of_wake rests).undue] using size
    have wakes := Wakes.of split due
    obtain ⟨rest, further, quiet, instant, did⟩ := ih (run.more (.wake wakes)) fewer
    obtain ⟨same, together⟩ := wake_of_split split undue due
    rw [same, List.append_assoc] at further
    refine ⟨t.event (t.wake d.now d.generation).1 :: rest, further, ?_, ?_, ?_⟩
    · simpa [Undisturbed] using quiet
    · simpa [elapsed] using instant
    · rw [← together, ← did, deeds, List.flatMap_cons, Task.done_event, deeds]

theorem deeds_append (first second : List (Event α)) :
    deeds (first ++ second) = deeds first ++ deeds second :=
  List.flatMap_append

theorem run_settled (run : Run events d) (settled : ∀ t ∈ d.tasks, t.isDue d.now = false) (n : Nat) :
    ∃ more, Run (events ++ more) (advance n d).1 ∧ Undisturbed more ∧ elapsed more = n ∧
      deeds more = (advance n d).2 := by
  induction n generalizing events d with
  | zero => exact ⟨[], by simpa [advance] using run, by simp [Undisturbed], rfl, rfl⟩
  | succ n ih =>
    obtain ⟨woken, wakes, quiet, instant, did⟩ := run_wake (run.more (.pass settled))
    obtain ⟨later, further, undisturbed, counted, done⟩ := ih wakes (settled_wake d.tick)
    refine ⟨.passed :: woken ++ later, by simpa [advance] using further, ?_, ?_, ?_⟩
    · simpa [Undisturbed, or_imp, forall_and, Event.isRequest] using ⟨quiet, undisturbed⟩
    · rw [List.cons_append, elapsed, List.countP_cons_of_pos rfl, ← elapsed, elapsed_append, instant,
        counted, Nat.zero_add]
    · rw [List.cons_append, deeds, List.flatMap_cons, ← deeds, deeds_append, did, done]
      rfl

/-- The debouncer that does what is due and runs for `n` milliseconds has a history of as many in which
nothing is asked of it, and does what this history tells. -/
theorem run_advance (run : Run events d) (n : Nat) :
    ∃ more, Run (events ++ more) (advance n d.wake.1).1 ∧ Undisturbed more ∧ elapsed more = n ∧
      deeds more = d.wake.2 ++ (advance n d.wake.1).2 := by
  obtain ⟨woken, wakes, quiet, instant, did⟩ := run_wake run
  obtain ⟨later, further, undisturbed, counted, done⟩ := run_settled wakes (settled_wake d) n
  refine ⟨woken ++ later, by rwa [← List.append_assoc], ?_, ?_, ?_⟩
  · simpa [Undisturbed, or_imp, forall_and] using ⟨quiet, undisturbed⟩
  · rw [elapsed_append, instant, counted, Nat.zero_add]
  · rw [deeds_append, did, done]

end

end ODataQuery.Debouncer
