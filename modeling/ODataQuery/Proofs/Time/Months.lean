import Mathlib.Algebra.Order.Group.Int
import Mathlib.Order.Monotone.Basic
import ODataQuery.Proofs.Time.Accepted
import ODataQuery.Proofs.Time.Moving

/-! Moving a date by months. A month begins on the day after the last one of the month before, so that
going on by months never goes back by days, whatever days are cut off at the ends of short months. -/
namespace ODataQuery

namespace Date

theorem dayNumber_eq_first (year : Int) (month day : Nat) :
    (Date.mk year month day).dayNumber = (Date.mk year month 1).dayNumber + day - 1 := by
  unfold dayNumber
  dsimp only
  omega

theorem isLeapYear_iff (year : Int) :
    isLeapYear year = true ↔ year % 4 = 0 ∧ (year % 100 ≠ 0 ∨ year % 400 = 0) := by
  simp [isLeapYear]

/-- Within a year the first of a month is the day after the last of the month before. -/
theorem dayNumber_next_month (year : Int) {month : Nat} (first : 1 ≤ month) (last : month ≤ 11) :
    (Date.mk year (month + 1) 1).dayNumber =
      (Date.mk year month 1).dayNumber + daysInMonth year month := by
  by_cases february : month = 2
  · subst february
    have days : (daysInMonth year 2 : Int) = if isLeapYear year then 29 else 28 := by
      rw [daysInMonth, if_pos rfl]
      split <;> rfl
    rw [days]
    unfold dayNumber
    by_cases leap : isLeapYear year = true
    · rw [if_pos leap]
      rw [isLeapYear_iff] at leap
      simp
      omega
    · rw [if_neg leap]
      rw [isLeapYear_iff] at leap
      simp
      omega
  · unfold dayNumber
    interval_cases month <;> simp [daysInMonth] at february ⊢ <;> omega

theorem dayNumber_next_year (year : Int) :
    (Date.mk (year + 1) 1 1).dayNumber = (Date.mk year 12 1).dayNumber + daysInMonth year 12 := by
  unfold dayNumber
  simp [daysInMonth]
  omega

/-- A day of a month that is counted through all years, or the last one of a shorter month. -/
def ofMonths (day : Nat) (months : Int) : Date :=
  let year := months / 12
  let month := (months % 12).toNat + 1
  ⟨year, month, min day (daysInMonth year month)⟩

theorem addMonths_eq (d : Date) (months : Int) :
    d.addMonths months = ofMonths d.day (d.year * 12 + (d.month - 1 : Nat) + months) := rfl

/-- Any day of a month is before all days of the next one. -/
theorem dayNumber_ofMonths_lt {day : Nat} (first : 1 ≤ day) (months : Int) :
    (ofMonths day months).dayNumber < (ofMonths day (months + 1)).dayNumber := by
  have next : (Date.mk ((months + 1) / 12) (((months + 1) % 12).toNat + 1) 1).dayNumber =
      (Date.mk (months / 12) ((months % 12).toNat + 1) 1).dayNumber +
        daysInMonth (months / 12) ((months % 12).toNat + 1) := by
    by_cases last : months % 12 = 11
    · have year : (months + 1) / 12 = months / 12 + 1 := by omega
      have month : (months + 1) % 12 = 0 := by omega
      rw [year, month, last]
      exact dayNumber_next_year _
    · have year : (months + 1) / 12 = months / 12 := by omega
      have month : ((months + 1) % 12).toNat = (months % 12).toNat + 1 := by omega
      rw [year, month]
      exact dayNumber_next_month _ (by omega) (by omega)
  have days := daysInMonth_ge ((months + 1) / 12) (((months + 1) % 12).toNat + 1)
  rw [ofMonths, ofMonths, dayNumber_eq_first, dayNumber_eq_first ((months + 1) / 12), next]
  omega

theorem dayNumber_addMonths_le {d : Date} (valid : d.Valid) {a b : Int} (le : a ≤ b) :
    (d.addMonths a).dayNumber ≤ (d.addMonths b).dayNumber := by
  rw [addMonths_eq, addMonths_eq]
  exact (strictMono_int_of_lt_succ (dayNumber_ofMonths_lt valid.2.2.1)).monotone
    (Int.add_le_add_left le _)

theorem addMonths_zero {d : Date} (valid : d.Valid) : d.addMonths 0 = d := by
  obtain ⟨year, month, day⟩ := d
  obtain ⟨firstMonth, lastMonth, -, lastDay⟩ := valid
  dsimp only at firstMonth lastMonth lastDay
  have years : (year * 12 + (month - 1 : Nat) + 0) / 12 = year := by omega
  have months : ((year * 12 + (month - 1 : Nat) + 0) % 12).toNat + 1 = month := by omega
  rw [addMonths_eq, ofMonths]
  simp only [years, months, Nat.min_eq_left lastDay]

end Date

namespace Instant

variable {t u v w : Instant} {unit : TimeUnit} {a b c : Int}

theorem secondFrom_zero (plain : t.nanos < 1000000000) (unit : TimeUnit) :
    t.secondFrom unit 0 = t.seconds := by
  have valid : t.date.Valid := Date.valid_ofDayNumber _
  have day : t.date.dayNumber = t.seconds / 86400 := Date.dayNumber_ofDayNumber _
  rw [secondFrom]
  split
  · rw [Int.zero_mul, departure, if_neg (by omega), Int.add_zero]
  · rw [Int.zero_mul, Date.addMonths_zero valid, day, secondOfDay]
    omega

/-- Outside a leap second more units lead to a later second, and fewer to an earlier one. -/
theorem secondFrom_le (plain : t.nanos < 1000000000) (unit : TimeUnit) (le : a ≤ b) :
    t.secondFrom unit a ≤ t.secondFrom unit b := by
  have valid : t.date.Valid := Date.valid_ofDayNumber _
  rw [secondFrom, secondFrom]
  split
  · rename_i count _
    have further : a * count ≤ b * count := Int.mul_le_mul_of_nonneg_right le (by omega)
    rw [departure, departure, if_neg (by omega), if_neg (by omega)]
    omega
  · rename_i count _
    have further : a * count ≤ b * count := Int.mul_le_mul_of_nonneg_right le (by omega)
    have later := Date.dayNumber_addMonths_le valid further
    omega

/-- Outside a leap second moving leads where it is told, and keeps the fraction of the second. -/
theorem of_move? (plain : t.nanos < 1000000000) (moved : t.move? unit a = some u) :
    u.seconds = t.secondFrom unit a ∧ u.nanos = t.nanos := by
  obtain ⟨second, nanos⟩ := of_ofSeconds? moved
  refine ⟨second, nanos.trans ?_⟩
  unfold nanosFrom
  split
  · rw [Nat.mod_eq_of_lt plain, ite_self]
  · rfl

theorem exists_move? (plain : t.nanos < 1000000000) (unit : TimeUnit) (a : Int)
    (told : firstSecond ≤ t.secondFrom unit a ∧ t.secondFrom unit a ≤ lastSecond) :
    ∃ u, t.move? unit a = some u ∧ u.seconds = t.secondFrom unit a ∧ u.nanos = t.nanos := by
  have reached : t.move? unit a ≠ none := by
    rw [Ne, move?_eq_none_iff, OutOfReach, Untold]
    omega
  obtain ⟨u, moved⟩ := Option.ne_none_iff_exists'.mp reached
  exact ⟨u, moved, of_move? plain moved⟩

theorem move?_zero (plain : t.nanos < 1000000000) (unit : TimeUnit) : t.move? unit 0 = some t := by
  have stays := secondFrom_zero plain unit
  obtain ⟨u, moved, second, nanos⟩ :=
    exists_move? plain unit 0 (by rw [stays]; exact ⟨t.representable.1, t.representable.2.1⟩)
  have same : u = t := by
    rw [stays] at second
    cases u
    cases t
    simp_all
  rw [moved, same]

/-- Between two moves that can be made every move can be made, and comes to lie between. -/
theorem exists_between (plain : t.nanos < 1000000000) (low : b ≤ a) (high : a ≤ c)
    (before : t.move? unit b = some v) (after : t.move? unit c = some w) :
    ∃ u, t.move? unit a = some u ∧ u.nanos = t.nanos ∧
      v.seconds ≤ u.seconds ∧ u.seconds ≤ w.seconds := by
  have first : v.seconds ≤ t.secondFrom unit a :=
    (of_move? plain before).1 ▸ secondFrom_le plain unit low
  have last : t.secondFrom unit a ≤ w.seconds :=
    (of_move? plain after).1 ▸ secondFrom_le plain unit high
  obtain ⟨u, moved, second, nanos⟩ := exists_move? plain unit a
    ⟨Int.le_trans v.representable.1 first, Int.le_trans last w.representable.2.1⟩
  exact ⟨u, moved, nanos, second ▸ first, second ▸ last⟩

end Instant

end ODataQuery
