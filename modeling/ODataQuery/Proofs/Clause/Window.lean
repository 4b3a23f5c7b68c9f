import ODataQuery.Clause.Basic
import ODataQuery.Proofs.Time.Months
import ODataQuery.Proofs.Time.Seconds

/-! Windows of time relative to now. A filter on the last or the next units is written as a range that
ends or begins at the present second, and of two such filters the one with fewer units has its range
within that of the other. -/
namespace ODataQuery

namespace Instant

instance : LE Instant :=
  ⟨fun t u => t.seconds < u.seconds ∨ t.seconds = u.seconds ∧ t.nanos ≤ u.nanos⟩

theorem cut_le_cut {t u : Instant} (plain : t.nanos < 1000000000) (le : t.seconds ≤ u.seconds) :
    t.cut ≤ u.cut := by
  rcases Int.lt_or_eq_of_le le with before | same
  · exact .inl before
  · exact .inr ⟨same, by rw [nanos_cut plain]; exact Nat.zero_le _⟩

end Instant

structure Window where
  start : Instant
  stop : Instant
  ordered : start ≤ stop

namespace Window

/-- Every instant of the one is one of the other. -/
def Within (w other : Window) : Prop := other.start ≤ w.start ∧ w.stop ≤ other.stop

end Window

namespace Filter

/-- The filter with a condition on dates, of so many units. -/
def within (f : Filter) (d : DateCondition) (amount : Nat) : Filter :=
  { f with payload := .date { d with amount := some amount } }

theorem isInert_within {d : DateCondition} (f : Filter) (relative : d.mode = .last ∨ d.mode = .next)
    {amount : Nat} (positive : 1 ≤ amount) : (f.within d amount).isInert = false := by
  have filled : amount ≠ 0 := by omega
  rcases relative with mode | mode <;> simp [isInert, within, mode, filled]

end Filter

namespace Fragment

variable {f : Filter} {d : DateCondition} {amount : Nat}

theorem ofFilter?_last (now : Instant) (ranged : f.operator.isNullary = false)
    (mode : d.mode = .last) (positive : 1 ≤ amount) :
    ofFilter? now (f.within d amount) =
      (now.move? d.unit (-amount)).map fun start => .bounded (.instant start) (.instant now) := by
  have active := f.isInert_within (.inl mode) positive
  have moved := shift?_eq_move? now d.unit amount false
  rw [if_neg Bool.false_ne_true] at moved
  rw [ofFilter?, active, ← moved]
  simp only [Filter.within, ranged, Bool.false_eq_true, if_false, ofDate?, mode,
    Option.bind_eq_bind, Option.bind_some]
  cases shift? now d.unit amount false <;> rfl

theorem ofFilter?_next (now : Instant) (ranged : f.operator.isNullary = false)
    (mode : d.mode = .next) (positive : 1 ≤ amount) :
    ofFilter? now (f.within d amount) =
      (now.move? d.unit amount).map fun stop => .bounded (.instant now) (.instant stop) := by
  have active := f.isInert_within (.inr mode) positive
  have moved := shift?_eq_move? now d.unit amount true
  rw [if_pos rfl] at moved
  rw [ofFilter?, active, ← moved]
  simp only [Filter.within, ranged, Bool.false_eq_true, if_false, ofDate?, mode,
    Option.bind_eq_bind, Option.bind_some]
  cases shift? now d.unit amount true <;> rfl

end Fragment

namespace Compiler

variable {c : Compiler} {f : Filter} {d : DateCondition}

/-- A filter is written as a range, and these instants are read from its bounds. -/
def Spans (c : Compiler) (f : Filter) (w : Window) : Prop :=
  ∃ low high, c.render? f = some (Operator.between.write [c.path f, low, high]) ∧
    Time.relaxed? low = some w.start ∧ Time.relaxed? high = some w.stop

theorem Spans.isSome {w : Window} (spans : c.Spans f w) : (c.render? f).isSome := by
  obtain ⟨low, high, text, -⟩ := spans
  rw [text]
  rfl

theorem spans_of_bounded {low high : Instant} (plain : low.nanos < 1000000000)
    (plain' : high.nanos < 1000000000) (le : low.seconds ≤ high.seconds)
    (asks : Fragment.ofFilter? c.now f = some (.bounded (.instant low) (.instant high))) :
    c.Spans f ⟨low.cut, high.cut, Instant.cut_le_cut plain le⟩ := by
  refine ⟨low.secondsText, high.secondsText, ?_, ?_, ?_⟩
  · rw [render?, asks]
    rfl
  · rw [Instant.relaxed?_secondsText, Instant.wholeSecond_eq_cut plain]
  · rw [Instant.relaxed?_secondsText, Instant.wholeSecond_eq_cut plain']

theorem render?_of_isNullary (nullary : f.operator.isNullary = true) : (c.render? f).isSome := by
  have active : f.isInert = false := by rw [Filter.isInert, if_pos nullary]
  rw [render?, Option.isSome_map, Fragment.ofFilter?, active, if_neg Bool.false_ne_true, if_pos nullary]
  rfl

/-- Of two windows that end now the one of fewer units lies within the other. -/
theorem exists_spans_last (plain : c.now.nanos < 1000000000) (ranged : f.operator.isNullary = false)
    (mode : d.mode = .last) {n m : Nat} (positive : 1 ≤ n) (fewer : n ≤ m)
    (written : (c.render? (f.within d m)).isSome) :
    ∃ w v, c.Spans (f.within d n) w ∧ c.Spans (f.within d m) v ∧ w.Within v ∧
      w.stop = c.now.cut ∧ v.stop = c.now.cut := by
  have near := Fragment.ofFilter?_last c.now ranged mode positive
  have far := Fragment.ofFilter?_last c.now ranged mode (Nat.le_trans positive fewer)
  rw [render?, far, Option.isSome_map, Option.isSome_map] at written
  obtain ⟨start, movedFar⟩ := Option.isSome_iff_exists.mp written
  have plainFar := (Instant.of_move? plain movedFar).2
  obtain ⟨nearer, movedNear, plainNear, outer, inner⟩ := Instant.exists_between (a := -n) plain
    (by omega) (by omega) movedFar (Instant.move?_zero plain d.unit)
  rw [movedNear] at near
  rw [movedFar] at far
  exact ⟨_, _, spans_of_bounded (plainNear ▸ plain) plain inner near,
    spans_of_bounded (plainFar ▸ plain) plain (Int.le_trans outer inner) far,
    ⟨Instant.cut_le_cut (plainFar ▸ plain) outer, Instant.cut_le_cut plain (Int.le_refl _)⟩, rfl, rfl⟩

/-- Of two windows that begin now the one of fewer units lies within the other. -/
theorem exists_spans_next (plain : c.now.nanos < 1000000000) (ranged : f.operator.isNullary = false)
    (mode : d.mode = .next) {n m : Nat} (positive : 1 ≤ n) (fewer : n ≤ m)
    (written : (c.render? (f.within d m)).isSome) :
    ∃ w v, c.Spans (f.within d n) w ∧ c.Spans (f.within d m) v ∧ w.Within v ∧
      w.start = c.now.cut ∧ v.start = c.now.cut := by
  have near := Fragment.ofFilter?_next c.now ranged mode positive
  have far := Fragment.ofFilter?_next c.now ranged mode (Nat.le_trans positive fewer)
  rw [render?, far, Option.isSome_map, Option.isSome_map] at written
  obtain ⟨stop, movedFar⟩ := Option.isSome_iff_exists.mp written
  have plainFar := (Instant.of_move? plain movedFar).2
  obtain ⟨nearer, movedNear, plainNear, inner, outer⟩ := Instant.exists_between (a := n) plain
    (by omega) (by omega) (Instant.move?_zero plain d.unit) movedFar
  rw [movedNear] at near
  rw [movedFar] at far
  exact ⟨_, _, spans_of_bounded plain (plainNear ▸ plain) inner near,
    spans_of_bounded plain (plainFar ▸ plain) (Int.le_trans inner outer) far,
    ⟨Instant.cut_le_cut plain (Int.le_refl _), Instant.cut_le_cut (plainNear ▸ plain) outer⟩, rfl, rfl⟩

/-- When a filter on so many units before or after now is written, then so is each with fewer units.
Unless their operator takes no operand both are ranges with the present second as their inner end, and
the one with fewer units lies within the other. -/
theorem windows_nested (plain : c.now.nanos < 1000000000) (relative : d.mode = .last ∨ d.mode = .next)
    {n m : Nat} (positive : 1 ≤ n) (fewer : n ≤ m) (written : (c.render? (f.within d m)).isSome) :
    (c.render? (f.within d n)).isSome ∧
      (f.operator.isNullary = false →
        ∃ w v, c.Spans (f.within d n) w ∧ c.Spans (f.within d m) v ∧ w.Within v ∧
          (d.mode = .last → w.stop = c.now.cut ∧ v.stop = c.now.cut) ∧
          (d.mode = .next → w.start = c.now.cut ∧ v.start = c.now.cut)) := by
  cases ranged : f.operator.isNullary with
  | true => exact ⟨render?_of_isNullary ranged, fun none => Bool.noConfusion none⟩
  | false =>
    rcases relative with mode | mode
    · obtain ⟨w, v, near, far, within, ends⟩ :=
        exists_spans_last plain ranged mode positive fewer written
      exact ⟨near.isSome, fun _ => ⟨w, v, near, far, within, fun _ => ends, by simp [mode]⟩⟩
    · obtain ⟨w, v, near, far, within, ends⟩ :=
        exists_spans_next plain ranged mode positive fewer written
      exact ⟨near.isSome, fun _ => ⟨w, v, near, far, within, by simp [mode], fun _ => ends⟩⟩

/-- Half a second after noon on the last day of March 2024. -/
def monthEnd : Compiler := { now := ⟨1711886400, 500000000, by decide⟩ }

theorem windows_nested_month_end :
    let months (n : Nat) :=
      (Filter.relative "DueOn" .last 1 .month).within ⟨none, .last, .month, none, {}⟩ n
    monthEnd.render? (months 1) =
        some "(DueOn ge 2024-02-29T12:00:00Z and DueOn le 2024-03-31T12:00:00Z)" ∧
      monthEnd.render? (months 13) =
        some "(DueOn ge 2023-02-28T12:00:00Z and DueOn le 2024-03-31T12:00:00Z)" ∧
      ∃ w v, monthEnd.Spans (months 1) w ∧ monthEnd.Spans (months 13) v ∧ w.Within v := by
  intro months
  have written : monthEnd.render? (months 13) =
      some "(DueOn ge 2023-02-28T12:00:00Z and DueOn le 2024-03-31T12:00:00Z)" := by decide
  obtain ⟨w, v, near, far, within, -⟩ := (windows_nested (n := 1) (m := 13) (c := monthEnd)
    (f := Filter.relative "DueOn" .last 1 .month) (d := ⟨none, .last, .month, none, {}⟩)
    (by decide) (.inl rfl) (by decide) (by decide) (written ▸ rfl)).2 (by decide)
  exact ⟨by decide, written, w, v, near, far, within⟩

end Compiler

end ODataQuery
