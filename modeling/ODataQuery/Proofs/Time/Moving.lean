import ODataQuery.Clause.Fragment
import ODataQuery.Proofs.Time.Reading

/-! Moving an instant by units of time. Where it comes to lie is told on a count of seconds without
end, and there is an instant just when that second is one of the years that are told. -/
namespace ODataQuery

namespace Date

theorem daysInMonth_ge (year : Int) (month : Nat) : 28 ≤ daysInMonth year month := by
  unfold daysInMonth
  split
  · split <;> omega
  · split <;> omega

theorem valid_addMonths {d : Date} (valid : d.Valid) (months : Int) : (d.addMonths months).Valid := by
  obtain ⟨-, -, firstDay, -⟩ := valid
  have days := daysInMonth_ge ((d.year * 12 + (d.month - 1 : Nat) + months) / 12)
    (((d.year * 12 + (d.month - 1 : Nat) + months) % 12).toNat + 1)
  refine ⟨?_, ?_, ?_, Nat.min_le_right _ _⟩ <;> simp only [addMonths] <;> omega

/-- The day of a date by the 146097 days of 400 years, to within two years. -/
theorem dayNumber_bounds {d : Date} (valid : d.Valid) :
    146097 * d.year - 288000000 ≤ 400 * d.dayNumber ∧
      400 * d.dayNumber ≤ 146097 * d.year - 287600000 := by
  obtain ⟨firstMonth, lastMonth, firstDay, lastDay⟩ := valid
  have days := daysInMonth_le d.year d.month
  unfold dayNumber
  split <;> dsimp only <;> omega

end Date

/-- The length of a unit: so many seconds, or so many months of the calendar. -/
inductive Span
  | seconds (count : Nat)
  | months (count : Nat)

def TimeUnit.span : TimeUnit → Span
  | minute => .seconds 60
  | hour => .seconds 3600
  | day => .seconds 86400
  | week => .seconds 604800
  | month => .months 1
  | year => .months 12

namespace Instant

/-- Where a move by whole seconds begins: the way back out of a leap second at the second after it. -/
def departure (t : Instant) (delta : Int) : Int :=
  if 1000000000 ≤ t.nanos ∧ delta < 0 then t.seconds + 1 else t.seconds

/-- The second that lies so many units after an instant, or before it when negative. Months keep the
time of day. -/
def secondFrom (t : Instant) (unit : TimeUnit) (amount : Int) : Int :=
  match unit.span with
  | .seconds count => t.departure (amount * count) + amount * count
  | .months count => (t.date.addMonths (amount * count)).dayNumber * 86400 + t.secondOfDay

/-- A second before the first or after the last. -/
def Untold (second : Int) : Prop := second < firstSecond ∨ lastSecond < second

def OutOfReach (t : Instant) (unit : TimeUnit) (amount : Int) : Prop :=
  Untold (t.secondFrom unit amount)

theorem ofSeconds?_eq_none_iff {second : Int} {nanos : Nat} (small : nanos < 2000000000) :
    ofSeconds? second nanos = none ↔ Untold second := by
  rw [ofSeconds?, dite_eq_right_iff]
  simp only [reduceCtorEq, imp_false, Representable, Untold]
  omega

/-- Hundreds of millions of years away there is no instant, so that these need not be counted in
months. -/
theorem outOfReach_of_far (t : Instant) {amount : Int} (far : 4294967296 ≤ amount.natAbs * 12) :
    t.OutOfReach .year amount := by
  obtain ⟨low, high, -⟩ := t.representable
  have first : firstSecond = -8334601228800 := by decide
  have last : lastSecond = 8210266876799 := by decide
  have valid : t.date.Valid := Date.valid_ofDayNumber _
  have day : t.date.dayNumber = t.seconds / 86400 := Date.dayNumber_ofDayNumber _
  have near := Date.dayNumber_bounds valid
  have away := Date.dayNumber_bounds (Date.valid_addMonths valid (amount * 12))
  have year : (t.date.addMonths (amount * 12)).year =
      (t.date.year * 12 + (t.date.month - 1 : Nat) + amount * 12) / 12 := rfl
  have month := valid.2.1
  have time := t.secondOfDay_lt
  change Untold ((t.date.addMonths (amount * 12)).dayNumber * 86400 + t.secondOfDay)
  rw [Untold]
  omega

/-- What such a move leaves of the second: any seconds end a leap second, and months keep it. -/
def nanosFrom (t : Instant) (unit : TimeUnit) (amount : Int) : Nat :=
  match unit.span with
  | .seconds count => if amount * count = 0 then t.nanos else t.nanos % 1000000000
  | .months _ => t.nanos

theorem nanosFrom_lt (t : Instant) (unit : TimeUnit) (amount : Int) :
    t.nanosFrom unit amount < 2000000000 := by
  have small := t.representable.2.2
  unfold nanosFrom
  split
  · split <;> omega
  · exact small

/-- The instant so many units away, or back when negative. -/
def move? (t : Instant) (unit : TimeUnit) (amount : Int) : Option Instant :=
  ofSeconds? (t.secondFrom unit amount) (t.nanosFrom unit amount)

theorem move?_eq_none_iff (t : Instant) (unit : TimeUnit) (amount : Int) :
    t.move? unit amount = none ↔ t.OutOfReach unit amount :=
  ofSeconds?_eq_none_iff (t.nanosFrom_lt unit amount)

theorem addSeconds?_eq (t : Instant) (delta : Int) :
    t.addSeconds? delta = ofSeconds? (t.departure delta + delta)
      (if delta = 0 then t.nanos else t.nanos % 1000000000) := by
  have small := t.representable.2.2
  unfold addSeconds? departure
  by_cases leap : 1000000000 ≤ t.nanos
  · have rest : t.nanos % 1000000000 = t.nanos - 1000000000 := by omega
    rcases Int.lt_trichotomy delta 0 with back | rfl | ahead
    · rw [if_neg (by omega), if_pos ⟨leap, back⟩, if_pos ⟨leap, back⟩, if_neg (by omega), rest]
    · simp
    · rw [if_pos ⟨leap, ahead⟩, if_neg (by omega), if_neg (by omega), rest]
  · have rest : t.nanos % 1000000000 = t.nanos := Nat.mod_eq_of_lt (by omega)
    simp [leap, rest]

theorem addMonths?_eq (t : Instant) (months : Int) :
    t.addMonths? months =
      ofSeconds? ((t.date.addMonths months).dayNumber * 86400 + t.secondOfDay) t.nanos :=
  if_pos ⟨Date.valid_addMonths (Date.valid_ofDayNumber _) months, t.secondOfDay_lt⟩

theorem move?_seconds (t : Instant) {unit : TimeUnit} {count : Nat} (span : unit.span = .seconds count)
    (amount : Int) : t.move? unit amount = t.addSeconds? (amount * count) := by
  rw [addSeconds?_eq]
  simp only [move?, secondFrom, nanosFrom, span]

theorem move?_months (t : Instant) {unit : TimeUnit} {count : Nat} (span : unit.span = .months count)
    (amount : Int) : t.move? unit amount = t.addMonths? (amount * count) := by
  rw [addMonths?_eq]
  simp only [move?, secondFrom, nanosFrom, span]

end Instant

/-- Forward and back are two signs of one amount, and years too many to be counted in months lead to no
instant. -/
theorem Fragment.shift?_eq_move? (now : Instant) (unit : TimeUnit) (amount : Nat) (forward : Bool) :
    shift? now unit amount forward = now.move? unit (if forward then amount else -amount) := by
  have signed (count : Nat) : (if forward then ((amount * count : Nat) : Int) else
      -((amount * count : Nat) : Int)) = (if forward then (amount : Int) else -amount) * count := by
    cases forward <;> simp
  cases unit with
  | minute | hour | day | week =>
    simp only [shift?, signed]
    exact (now.move?_seconds rfl _).symm
  | month =>
    have months := signed 1
    rw [Nat.mul_one] at months
    exact (congrArg now.addMonths? months).trans (now.move?_months rfl _).symm
  | year =>
    simp only [shift?]
    split
    · rw [signed]
      exact (now.move?_months rfl _).symm
    · rename_i far
      refine ((now.move?_eq_none_iff .year _).mpr (now.outOfReach_of_far ?_)).symm
      cases forward <;> simp <;> omega

theorem Fragment.shift?_eq_none_iff (now : Instant) (unit : TimeUnit) (amount : Nat)
    (forward : Bool) :
    shift? now unit amount forward = none ↔
      now.OutOfReach unit (if forward then amount else -amount) := by
  rw [shift?_eq_move?, Instant.move?_eq_none_iff]

end ODataQuery
