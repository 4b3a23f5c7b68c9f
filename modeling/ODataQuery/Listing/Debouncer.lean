/-! Debouncing: of the actions called for, only the newest begins, once its delay has passed without
another call. An action is a list of steps with a rest behind each; one that has begun goes on when
newer ones are called for. Time is counted in milliseconds. -/
namespace ODataQuery

/-- An action on its way. -/
structure Debouncer.Task (α : Type) where
  /-- The number of the call that asked for it. -/
  generation : Nat
  /-- When it takes its next step. -/
  due : Nat
  begun : Bool
  steps : List (α × Nat)

structure Debouncer (α : Type) where
  now : Nat := 0
  /-- Grows with every call and every cancellation. -/
  generation : Nat := 0
  /-- The actions on their way, in the order in which they went to rest. -/
  tasks : List (Debouncer.Task α) := []
  /-- The generation of the action that a cancellation stops. -/
  latest : Option Nat := none
  disposed : Bool := false

namespace Debouncer

namespace Task

/-- Takes the steps that are due at once: what they do, and the task as it goes to rest again. -/
def proceed (now generation : Nat) : List (α × Nat) → List α × Option (Task α)
  | [] => ([], none)
  | (a, rest) :: more =>
    if rest = 0 then (a :: (proceed now generation more).1, (proceed now generation more).2)
    else ([a], some ⟨generation, now + rest, true, more⟩)

/-- Wakes a task. One that has not begun and is not the newest any more ends without a step. -/
def wake (now generation : Nat) (t : Task α) : List α × Option (Task α) :=
  if !t.begun ∧ t.generation ≠ generation then ([], none) else proceed now t.generation t.steps

def isDue (now : Nat) (t : Task α) : Bool := t.due ≤ now

end Task

/-- Calls for an action after a delay. The one before stays on its way, but will not begin. -/
def call (d : Debouncer α) (delay : Nat) (steps : List (α × Nat)) : Debouncer α :=
  if d.disposed then d
  else
    let generation := d.generation + 1
    { d with
      generation
      tasks := d.tasks ++ [⟨generation, d.now + delay, false, steps⟩]
      latest := some generation }

/-- Stops the newest action, whether it has begun or not; none that waits will begin. -/
def cancel (d : Debouncer α) : Debouncer α :=
  { d with
    generation := d.generation + 1
    tasks := d.tasks.filter fun t => some t.generation ≠ d.latest
    latest := none }

/-- Cancels, and ignores all later calls. -/
def dispose (d : Debouncer α) : Debouncer α := { d with disposed := true }.cancel

/-- Whether the newest action waits or is under way. -/
def isPending (d : Debouncer α) : Bool := d.tasks.any fun t => some t.generation = d.latest

/-- Wakes all tasks that are due, and says what they do. -/
def wake (d : Debouncer α) : Debouncer α × List α :=
  let due := d.tasks.filter (Task.isDue d.now)
  let results := due.map (Task.wake d.now d.generation)
  ({ d with
     tasks := (d.tasks.filter fun t => !t.isDue d.now) ++ results.filterMap (·.2) },
   results.flatMap (·.1))

def tick (d : Debouncer α) : Debouncer α := { d with now := d.now + 1 }

/-- Lets milliseconds pass, one after the other, and says what is done in them. -/
def advance : Nat → Debouncer α → Debouncer α × List α
  | 0, d => (d, [])
  | n + 1, d =>
    let (after, done) := advance n d.tick.wake.1
    (after, d.tick.wake.2 ++ done)

end Debouncer

end ODataQuery
