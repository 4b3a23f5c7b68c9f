import Mathlib.Data.List.Basic
import ODataQuery.Listing.Debouncer

/-! Tasks of a debouncer that wake one at a time, in any order. Of those that wait only the one
called for last begins; the others end when they wake. -/
namespace ODataQuery.Debouncer

variable {α : Type}

namespace Task

/-- The steps that are taken are the first ones of the action. -/
theorem proceed_prefix (now generation : Nat) (steps : List (α × Nat)) :
    (proceed now generation steps).1 <+: steps.map Prod.fst := by
  induction steps with
  | nil => exact List.prefix_rfl
  | cons step more ih =>
    obtain ⟨a, rest⟩ := step
    unfold proceed
    split
    · exact List.prefix_cons_inj a |>.mpr ih
    · exact ⟨_, rfl⟩

theorem proceed_eq_nil_iff {now generation : Nat} {steps : List (α × Nat)} :
    (proceed now generation steps).1 = [] ↔ steps = [] := by
  cases steps with
  | nil => exact iff_of_true rfl rfl
  | cons step more =>
    unfold proceed
    split <;> simp

/-- A task at rest has begun with a step, rests for a while, and stands for the same call. -/
theorem rest_of_proceed {now generation : Nat} {steps : List (α × Nat)} {u : Task α}
    (rests : (proceed now generation steps).2 = some u) :
    u.begun = true ∧ now < u.due ∧ u.generation = generation ∧ steps ≠ [] := by
  induction steps with
  | nil => cases rests
  | cons step more ih =>
    unfold proceed at rests
    split at rests
    · obtain ⟨begun, later, same, -⟩ := ih rests
      exact ⟨begun, later, same, List.cons_ne_nil _ _⟩
    · rename_i rest
      cases rests
      exact ⟨rfl, Nat.lt_add_of_pos_right (Nat.pos_of_ne_zero rest), rfl, List.cons_ne_nil _ _⟩

/-- A task that wakes goes to rest again: it has taken a step, as one that has begun before or is the
newest. -/
structure Rests (now generation : Nat) (t u : Task α) : Prop where
  begun : u.begun = true
  undue : u.isDue now = false
  same : u.generation = t.generation
  filled : t.steps ≠ []
  works : (t.wake now generation).1 ≠ []
  goes : t.begun = true ∨ t.generation = generation

theorem rests_of_wake {now generation : Nat} {t u : Task α}
    (rests : (t.wake now generation).2 = some u) : Rests now generation t u := by
  by_cases overtaken : !t.begun ∧ t.generation ≠ generation
  · rw [wake, if_pos overtaken] at rests
    cases rests
  have woken : t.wake now generation = proceed now t.generation t.steps := if_neg overtaken
  rw [woken] at rests
  obtain ⟨begun, later, same, filled⟩ := rest_of_proceed rests
  refine ⟨begun, by simpa [isDue] using later, same, filled, ?_, ?_⟩
  · rw [woken]
    exact mt proceed_eq_nil_iff.mp filled
  · cases begun : t.begun with
    | true => exact .inl rfl
    | false => exact .inr (by simpa [begun] using overtaken)

end Task

/-- A task that is due wakes: what it does, and what becomes of the debouncer. -/
inductive Wakes (d : Debouncer α) (t : Task α) : List α → Debouncer α → Prop
  | of {before after : List (Task α)} (split : d.tasks = before ++ t :: after)
      (due : t.isDue d.now = true) :
      Wakes d t (t.wake d.now d.generation).1
        { d with tasks := before ++ after ++ (t.wake d.now d.generation).2.toList }

def Awaits (d : Debouncer α) : Prop :=
  ∃ t ∈ d.tasks, t.begun = false ∧ t.generation = d.generation

/-- All tasks wait to take one step, in the order of the calls. -/
structure Queued (d : Debouncer α) : Prop where
  waits : ∀ t ∈ d.tasks, t.begun = false
  single : ∀ t ∈ d.tasks, ∃ a, t.steps = [(a, 0)]
  ordered : d.tasks.Pairwise (·.generation < ·.generation)
  numbered : ∀ t ∈ d.tasks, t.generation ≤ d.generation
  latest : ∀ t ∈ d.tasks, some t.generation = d.latest ↔ t.generation = d.generation

theorem queued_empty : ({} : Debouncer α).Queued := by
  constructor <;> simp

theorem Queued.sublist {d e : Debouncer α} (queued : d.Queued) (tasks : e.tasks.Sublist d.tasks)
    (generation : e.generation = d.generation) (latest : e.latest = d.latest) : e.Queued where
  waits t member := queued.waits t (tasks.subset member)
  single t member := queued.single t (tasks.subset member)
  ordered := queued.ordered.sublist tasks
  numbered t member := generation ▸ queued.numbered t (tasks.subset member)
  latest t member := by
    rw [generation, latest]
    exact queued.latest t (tasks.subset member)

theorem Queued.call {d : Debouncer α} (queued : d.Queued) (delay : Nat) (a : α) :
    (d.call delay [(a, 0)]).Queued := by
  unfold Debouncer.call
  split
  · exact queued
  constructor
  case waits =>
    intro t member
    rcases List.mem_append.mp member with old | new
    · exact queued.waits t old
    · cases List.mem_singleton.mp new
      rfl
  case single =>
    intro t member
    rcases List.mem_append.mp member with old | new
    · exact queued.single t old
    · cases List.mem_singleton.mp new
      exact ⟨a, rfl⟩
  case ordered =>
    refine List.pairwise_append.mpr ⟨queued.ordered, List.pairwise_singleton _ _, ?_⟩
    intro t old u new
    cases List.mem_singleton.mp new
    exact Nat.lt_succ_of_le (queued.numbered t old)
  case numbered =>
    intro t member
    rcases List.mem_append.mp member with old | new
    · exact Nat.le_succ_of_le (queued.numbered t old)
    · cases List.mem_singleton.mp new
      exact Nat.le_refl _
  case latest =>
    intro t _
    exact Option.some_inj

theorem Queued.dispose {d : Debouncer α} (queued : d.Queued) : d.dispose.Queued := by
  have tasks : d.dispose.tasks.Sublist d.tasks := List.filter_sublist
  constructor
  case waits => exact fun t member => queued.waits t (tasks.subset member)
  case single => exact fun t member => queued.single t (tasks.subset member)
  case ordered => exact queued.ordered.sublist tasks
  case numbered => exact fun t member => Nat.le_succ_of_le (queued.numbered t (tasks.subset member))
  case latest =>
    intro t member
    have bound := queued.numbered t (tasks.subset member)
    have other : t.generation ≠ d.generation + 1 := by omega
    exact iff_of_false (Option.some_ne_none _) other

theorem Queued.awaits_iff_isPending {d : Debouncer α} (queued : d.Queued) :
    d.Awaits ↔ d.isPending = true := by
  simp only [Awaits, isPending, List.any_eq_true, decide_eq_true_eq]
  refine exists_congr fun t => and_congr_right fun member => ?_
  rw [queued.latest t member]
  exact and_iff_right (queued.waits t member)

theorem call_now (d : Debouncer α) (delay : Nat) (steps : List (α × Nat)) :
    (d.call delay steps).now = d.now := by
  unfold call
  split <;> rfl

theorem call_disposed (d : Debouncer α) (delay : Nat) (steps : List (α × Nat)) :
    (d.call delay steps).disposed = d.disposed := by
  unfold call
  split <;> rfl

theorem mem_call {d : Debouncer α} {delay : Nat} {steps : List (α × Nat)} {t : Task α}
    (member : t ∈ (d.call delay steps).tasks) :
    t ∈ d.tasks ∨ d.disposed = false ∧ t = ⟨d.generation + 1, d.now + delay, false, steps⟩ := by
  unfold call at member
  split at member
  · exact .inl member
  · rename_i opened
    rcases List.mem_append.mp member with old | new
    · exact .inl old
    · exact .inr ⟨by simpa using opened, List.mem_singleton.mp new⟩

theorem awaits_call {d : Debouncer α} (opened : d.disposed = false) (delay : Nat)
    (steps : List (α × Nat)) : (d.call delay steps).Awaits := by
  rw [call, if_neg (by simp [opened])]
  exact ⟨_, List.mem_append_right _ (List.mem_singleton_self _), rfl, rfl⟩

section
variable {d e : Debouncer α} {t : Task α} {done : List α}

theorem exists_wakes (member : t ∈ d.tasks) (due : t.isDue d.now = true) :
    ∃ e done, d.Wakes t done e := by
  obtain ⟨front, back, split⟩ := List.append_of_mem member
  exact ⟨_, _, .of split due⟩

/-- A task that waits and is overtaken does nothing; any other takes the steps that are due. -/
theorem Wakes.done_eq (wakes : d.Wakes t done e) :
    done = if t.begun = false ∧ t.generation ≠ d.generation then []
      else (Task.proceed d.now t.generation t.steps).1 := by
  obtain ⟨-, -⟩ := wakes
  cases begun : t.begun <;> by_cases newest : t.generation = d.generation <;>
    simp [Task.wake, begun, newest]

theorem Wakes.done_prefix (wakes : d.Wakes t done e) : done <+: t.steps.map Prod.fst := by
  rw [wakes.done_eq]
  split
  · exact List.nil_prefix
  · exact Task.proceed_prefix _ _ _

theorem Wakes.mem (wakes : d.Wakes t done e) : t ∈ d.tasks := by
  obtain @⟨front, back, split, -⟩ := wakes
  simp [split]

theorem Wakes.stays (wakes : d.Wakes t done e) {u : Task α} (member : u ∈ d.tasks)
    (other : u ≠ t) : u ∈ e.tasks := by
  obtain @⟨front, back, split, -⟩ := wakes
  rw [split] at member
  have inside : u ∈ front ++ back := by simpa [other] using member
  exact List.mem_append_left _ inside

/-- What is on its way after a task woke was so before, or is that task at rest again. -/
theorem Wakes.mem_tasks (wakes : d.Wakes t done e) {u : Task α} (member : u ∈ e.tasks) :
    u ∈ d.tasks ∨ t.Rests d.now d.generation u ∧ done ≠ [] := by
  obtain @⟨front, back, split, -⟩ := wakes
  rcases List.mem_append.mp member with old | new
  · refine .inl ?_
    rw [split]
    exact (List.sublist_cons_self t back).append_left front |>.subset old
  · have rests := Task.rests_of_wake (Option.mem_toList.mp new)
    exact .inr ⟨rests, rests.works⟩

theorem Queued.wake_task (queued : d.Queued) (member : t ∈ d.tasks) :
    ∃ a, t.wake d.now d.generation = (if t.generation = d.generation then [a] else [], none) := by
  obtain ⟨a, single⟩ := queued.single t member
  refine ⟨a, ?_⟩
  rw [Task.wake, queued.waits t member, single]
  by_cases newest : t.generation = d.generation <;> simp [newest, Task.proceed]

theorem Queued.wakes_newest (queued : d.Queued) (member : t ∈ d.tasks)
    (due : t.isDue d.now = true) (newest : t.generation = d.generation) :
    ∃ a e, d.Wakes t [a] e := by
  obtain ⟨before, after, split⟩ := List.append_of_mem member
  obtain ⟨a, woken⟩ := queued.wake_task member
  rw [if_pos newest] at woken
  have wakes := Wakes.of split due
  rw [woken] at wakes
  exact ⟨a, _, wakes⟩

/-- Nothing is left of a task that wakes, and it takes its step if it is the newest. -/
theorem Queued.wakes (queued : d.Queued) (wakes : d.Wakes t done e) :
    ∃ before after, d.tasks = before ++ t :: after ∧ e = { d with tasks := before ++ after } ∧
      t.isDue d.now = true ∧ done = (t.wake d.now d.generation).1 ∧
      (done = [] ↔ t.generation ≠ d.generation) := by
  obtain @⟨before, after, split, due⟩ := wakes
  have member : t ∈ d.tasks := by simp [split]
  obtain ⟨a, woken⟩ := queued.wake_task member
  refine ⟨before, after, split, ?_, due, rfl, ?_⟩
  · rw [woken, Option.toList_none, List.append_nil]
  · rw [woken]
    by_cases newest : t.generation = d.generation <;> simp [newest]

theorem Queued.works_iff (queued : d.Queued) (wakes : d.Wakes t done e) :
    done ≠ [] ↔ t.generation = d.generation := by
  obtain ⟨-, -, -, -, -, -, superseded⟩ := queued.wakes wakes
  rw [ne_eq, superseded, not_not]

theorem Queued.woken (queued : d.Queued) (wakes : d.Wakes t done e) : e.Queued := by
  obtain ⟨before, after, split, rfl, -, -, -⟩ := queued.wakes wakes
  refine queued.sublist ?_ rfl rfl
  rw [split]
  exact (List.sublist_cons_self t after).append_left before

theorem Queued.fewer (queued : d.Queued) (wakes : d.Wakes t done e) :
    e.tasks.length < d.tasks.length := by
  obtain ⟨before, after, split, rfl, -⟩ := queued.wakes wakes
  simp [split]

/-- The tasks of other calls are not the newest one's. -/
theorem Queued.newest_unique (queued : d.Queued) {before after : List (Task α)}
    (split : d.tasks = before ++ t :: after) (newest : t.generation = d.generation) :
    ∀ u ∈ before ++ after, u.generation ≠ d.generation := by
  have ordered := queued.ordered
  rw [split] at ordered
  obtain ⟨-, behind, across⟩ := List.pairwise_append.mp ordered
  intro u member same
  rcases List.mem_append.mp member with front | back
  · have less := across u front t List.mem_cons_self
    omega
  · have less := (List.pairwise_cons.mp behind).1 u back
    omega

/-- A superseded task leaves the one that is awaited. -/
theorem Queued.awaits_of_lapse (queued : d.Queued) (wakes : d.Wakes t [] e) (awaits : d.Awaits) :
    e.Awaits := by
  obtain ⟨before, after, split, rfl, -, -, superseded⟩ := queued.wakes wakes
  obtain ⟨u, member, waits, newest⟩ := awaits
  rw [split] at member
  have other : u ≠ t := by
    rintro rfl
    exact superseded.mp rfl newest
  refine ⟨u, ?_, waits, newest⟩
  simpa [other] using member

theorem Queued.idle_of_begin (queued : d.Queued) (wakes : d.Wakes t done e) (begins : done ≠ []) :
    ¬ e.Awaits := by
  have newest := (queued.works_iff wakes).mp begins
  obtain ⟨before, after, split, rfl, -⟩ := queued.wakes wakes
  rintro ⟨u, member, -, same⟩
  exact queued.newest_unique split newest u member same

theorem Queued.wake_eq (queued : d.Queued) :
    d.wake = ({ d with tasks := d.tasks.filter fun t => !t.isDue d.now },
      (d.tasks.filter (Task.isDue d.now)).flatMap fun t => (t.wake d.now d.generation).1) := by
  have left : ((d.tasks.filter (Task.isDue d.now)).map (Task.wake d.now d.generation)).filterMap
      (·.2) = [] := by
    rw [List.filterMap_map, List.filterMap_eq_nil_iff]
    intro t member
    obtain ⟨a, woken⟩ := queued.wake_task (List.mem_of_mem_filter member)
    simp [woken]
  simp only [wake, left, List.append_nil, List.flatMap_map]

theorem Queued.wake_idle (queued : d.Queued) (idle : ¬ d.Awaits) : d.wake.2 = [] := by
  rw [queued.wake_eq, List.flatMap_eq_nil_iff]
  intro t due
  have member := List.mem_of_mem_filter due
  obtain ⟨a, woken⟩ := queued.wake_task member
  have superseded : t.generation ≠ d.generation := by
    intro newest
    exact idle ⟨t, member, queued.waits t member, newest⟩
  rw [woken, if_neg superseded]

/-- It makes no difference whether a task wakes before the others that are due, or with them. -/
theorem Queued.wake_after (queued : d.Queued) (wakes : d.Wakes t done e) :
    e.wake.1 = d.wake.1 ∧ d.wake.2.Perm (done ++ e.wake.2) := by
  have rest := (queued.woken wakes).wake_eq
  have all := queued.wake_eq
  obtain ⟨before, after, split, rfl, due, rfl, -⟩ := queued.wakes wakes
  rw [rest, all]
  constructor
  · simp [split, due]
  · simp only [split, List.filter_append, List.filter_cons_of_pos due, List.flatMap_append,
      List.flatMap_cons]
    exact List.perm_append_comm_assoc _ _ _

/-- What is done is the newest task's step, which it may also take alone. -/
theorem Queued.exists_wakes (queued : d.Queued) (works : d.wake.2 ≠ []) :
    ∃ t e a, d.Wakes t [a] e ∧ e.wake = (d.wake.1, []) ∧ d.wake.2 = [a] := by
  have awaits : ∃ t ∈ d.tasks, t.isDue d.now = true ∧ t.generation = d.generation := by
    by_contra none
    push Not at none
    refine works ?_
    rw [queued.wake_eq, List.flatMap_eq_nil_iff]
    intro t due
    obtain ⟨member, due⟩ := List.mem_filter.mp due
    obtain ⟨a, woken⟩ := queued.wake_task member
    rw [woken, if_neg (none t member due)]
  obtain ⟨t, member, due, newest⟩ := awaits
  obtain ⟨a, e, wakes⟩ := queued.wakes_newest member due newest
  have idle := (queued.woken wakes).wake_idle (queued.idle_of_begin wakes (by simp))
  obtain ⟨same, together⟩ := queued.wake_after wakes
  rw [idle, List.append_nil] at together
  exact ⟨t, e, a, wakes, Prod.ext same idle, List.perm_singleton.mp together⟩

end

end ODataQuery.Debouncer
