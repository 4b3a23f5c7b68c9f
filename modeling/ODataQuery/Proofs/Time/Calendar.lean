import ODataQuery.Time.Calendar
import Mathlib.Tactic.IntervalCases

/-! The date of a day number is a date of the calendar, and its day number is the one it was made
from. An era of 400 years is counted by centuries, cycles of four years, years and days, each of which
is of the same length but for the last. -/
namespace ODataQuery.Date

/-- A day of an era: its century, cycle, year and day, counted from zero. Only a leap year, which ends
its cycle, has a day 365. -/
structure Place (c q r s : Int) : Prop where
  century : 0 ≤ c ∧ c ≤ 3
  cycle : 0 ≤ q ∧ q ≤ 24
  year : 0 ≤ r ∧ r ≤ 3
  day : 0 ≤ s ∧ s ≤ 365
  leap : s = 365 → r = 3 ∧ (q = 24 → c = 3)

theorem exists_place {d : Int} (low : 0 ≤ d) (high : d < 146097) :
    ∃ c q r s, d = 36524 * c + 1461 * q + 365 * r + s ∧ Place c q r s := by
  let c := min (d / 36524) 3
  let inCentury := d - 36524 * c
  let q := inCentury / 1461
  let inCycle := inCentury - 1461 * q
  let r := min (inCycle / 365) 3
  refine ⟨c, q, r, inCycle - 365 * r, by omega, ?_, ?_, ?_, ?_, ?_⟩ <;>
    simp only [c, inCentury, q, inCycle, r] <;> omega

namespace Place

variable {c q r s : Int}

/-- The years of an era are counted by what would be left of its days without leap days. -/
theorem yearOfEra (place : Place c q r s) :
    let d := 36524 * c + 1461 * q + 365 * r + s
    (d - d / 1460 + d / 36524 - d / 146096) / 365 = 100 * c + 4 * q + r := by
  intro d
  obtain ⟨century, cycle, year, day, leap⟩ := place
  -- A quotient by 1460 counts the leap days too early in the last year of a cycle, by one.
  obtain ⟨t, quarters, early, late, last⟩ :
      ∃ t, d / 1460 = 25 * c + q + t ∧ (t = 0 ∨ t = 1) ∧ (t = 1 → 1 ≤ s) ∧ (s = 365 → t = 1) :=
    ⟨d / 1460 - 25 * c - q, by omega, by omega, by omega, by omega⟩
  have centuries : d / 36524 - d / 146096 = c := by
    by_cases inside : 1461 * q + 365 * r + s < 36524
    · have whole : d / 36524 = c := by omega
      have era : d / 146096 = 0 := by omega
      rw [whole, era, Int.sub_zero]
    · have lastDay : d = 146096 := by omega
      omega
  have numerator :
      d - d / 1460 + d / 36524 - d / 146096 = 365 * (100 * c + 4 * q + r) + (s - t) := by
    omega
  rw [numerator]
  omega

theorem dayOfYear (place : Place c q r s) :
    let y := 100 * c + 4 * q + r
    36524 * c + 1461 * q + 365 * r + s - (365 * y + y / 4 - y / 100) = s := by
  intro y
  obtain ⟨century, cycle, year, -, -⟩ := place
  have quarters : y / 4 = 25 * c + q := by omega
  have centuries : y / 100 = c := by omega
  omega

/-- The year that begins in the one of a place has a leap day just when the place has a day 365. -/
theorem isLeapYear (place : Place c q r s) (era : Int) :
    Date.isLeapYear (100 * c + 4 * q + r + era * 400 + 1) = true ↔ r = 3 ∧ (q = 24 → c = 3) := by
  obtain ⟨century, cycle, year, -, -⟩ := place
  simp only [Date.isLeapYear, Bool.and_eq_true, Bool.or_eq_true, beq_iff_eq, bne_iff_ne]
  omega

end Place

def ofYearDay (year s : Int) : Date :=
  let month := (5 * s + 2) / 153
  let day := s - (153 * month + 2) / 5 + 1
  let calendarMonth := if month < 10 then month + 3 else month - 9
  ⟨if calendarMonth ≤ 2 then year + 1 else year, calendarMonth.toNat, day.toNat⟩

theorem exists_ofYearDay (n : Int) :
    ∃ era c q r s, Place c q r s ∧
      n + 719468 = era * 146097 + (36524 * c + 1461 * q + 365 * r + s) ∧
      ofDayNumber n = ofYearDay (100 * c + 4 * q + r + era * 400) s := by
  have low : 0 ≤ (n + 719468) % 146097 := by omega
  have high : (n + 719468) % 146097 < 146097 := by omega
  obtain ⟨c, q, r, s, dayOfEra, place⟩ := exists_place low high
  refine ⟨(n + 719468) / 146097, c, q, r, s, place, by omega, ?_⟩
  unfold ofDayNumber
  simp only [dayOfEra, place.yearOfEra, place.dayOfYear]
  rfl

/-- The months from March on, each with the days of the year in it. -/
theorem month_range {s : Int} (low : 0 ≤ s) (high : s ≤ 365) :
    let m := (5 * s + 2) / 153
    0 ≤ m ∧ m ≤ 11 ∧ (153 * m + 2) / 5 ≤ s ∧ s < (153 * (m + 1) + 2) / 5 := by
  omega

theorem dayNumber_ofYearDay {y s : Int} (era : Int) (year : 0 ≤ y ∧ y ≤ 399)
    (day : 0 ≤ s ∧ s ≤ 365) :
    (ofYearDay (y + era * 400) s).dayNumber =
      era * 146097 + (365 * y + y / 4 - y / 100 + s) - 719468 := by
  obtain ⟨first, last, start, stop⟩ := month_range day.1 day.2
  generalize month : (5 * s + 2) / 153 = m at first last start stop
  by_cases spring : m < 10
  · have calendarMonth : ¬ m + 3 ≤ 2 := by omega
    have month' : ¬ (m + 3).toNat ≤ 2 := by omega
    have back : (((m + 3).toNat : Int) + 9) % 12 = m := by omega
    simp only [ofYearDay, dayNumber, month, if_pos spring, if_neg calendarMonth, if_neg month', back]
    omega
  · have calendarMonth : m - 9 ≤ 2 := by omega
    have month' : (m - 9).toNat ≤ 2 := by omega
    have back : (((m - 9).toNat : Int) + 9) % 12 = m := by omega
    simp only [ofYearDay, dayNumber, month, if_neg spring, if_pos calendarMonth, if_pos month', back]
    omega

theorem valid_ofYearDay {year s : Int} (day : 0 ≤ s ∧ s ≤ 365)
    (leap : s = 365 → isLeapYear (year + 1) = true) : (ofYearDay year s).Valid := by
  obtain ⟨first, last, start, stop⟩ := month_range day.1 day.2
  generalize month : (5 * s + 2) / 153 = m at first last start stop
  simp only [ofYearDay, month]
  by_cases february : m = 11
  · subst february
    refine ⟨by simp, by simp, by dsimp only; omega, ?_⟩
    cases leapYear : isLeapYear (year + 1) with
    | true => simp [daysInMonth, leapYear]; omega
    | false =>
      have short : s ≠ 365 := fun lastDay => by simp [leap lastDay] at leapYear
      simp [daysInMonth, leapYear]
      omega
  · have months : m ≤ 10 := by omega
    interval_cases m <;> simp [Valid, daysInMonth] <;> omega

theorem daysInMonth_le (year : Int) (month : Nat) : daysInMonth year month ≤ 31 := by
  unfold daysInMonth
  split
  · split <;> omega
  · split <;> omega

theorem dayNumber_ofDayNumber (n : Int) : (ofDayNumber n).dayNumber = n := by
  obtain ⟨era, c, q, r, s, place, number, date⟩ := exists_ofYearDay n
  have dayOfYear := place.dayOfYear
  obtain ⟨century, cycle, year, day, -⟩ := place
  rw [date, dayNumber_ofYearDay era (by omega) day]
  omega

theorem valid_ofDayNumber (n : Int) : (ofDayNumber n).Valid := by
  obtain ⟨era, c, q, r, s, place, -, date⟩ := exists_ofYearDay n
  rw [date]
  exact valid_ofYearDay place.day fun last => (place.isLeapYear era).mpr (place.leap last)

end ODataQuery.Date
