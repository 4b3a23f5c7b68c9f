import Mathlib.Algebra.Group.Nat.Defs
import ODataQuery.Number.Decimal

/-! Rounding of whole numbers. A whole number is moved by at most half the distance between the
neighbours of its size, so that those up to 2⁵³ are kept. -/
namespace ODataQuery

namespace Binary64

theorem exists_one : ∃ k, k = 1074 ∧ one = 2 ^ k := ⟨_, rfl, Nat.pow_eq⟩

theorem one_positive : 0 < one := by
  obtain ⟨k, -, unit⟩ := exists_one
  rw [unit]
  exact Nat.two_pow_pos k

theorem spacing_pos (units : Nat) : 0 < spacing units := Nat.two_pow_pos _

theorem spacing_mul_le {units : Nat} (large : 2 ^ 52 ≤ units) :
    spacing units * 2 ^ 52 ≤ units := by
  have nonzero : units ≠ 0 := by omega
  have leading : 52 ≤ units.log2 := (Nat.le_log2 nonzero).mpr large
  calc spacing units * 2 ^ 52 = 2 ^ (units.log2 - 52) * 2 ^ 52 := rfl
    _ = 2 ^ units.log2 := by rw [← Nat.pow_add, Nat.sub_add_cancel leading]
    _ ≤ units := Nat.log2_self_le nonzero

/-- Rounding moves by at most half a step, either way. -/
theorem roundQuotient_near (units : Nat) :
    2 * roundQuotient units 1 ≤ 2 * units + spacing units ∧
      2 * units ≤ 2 * roundQuotient units 1 + spacing units := by
  have divided := Nat.div_add_mod units (spacing units)
  have rest := Nat.mod_lt units (spacing_pos units)
  have next : spacing units * (units / spacing units + 1) =
      spacing units * (units / spacing units) + spacing units := Nat.mul_succ ..
  rw [roundQuotient, Nat.div_one, Nat.one_mul]
  split
  · constructor <;> omega
  split
  · rw [next]
    constructor <;> omega
  · rcases Nat.mod_two_eq_zero_or_one (units / spacing units) with even | odd
    · rw [even, Nat.add_zero]
      constructor <;> omega
    · rw [odd, next]
      constructor <;> omega

theorem roundQuotient_of_dvd {units : Nat} (multiple : spacing units ∣ units) :
    roundQuotient units 1 = units := by
  have rest : units % spacing units = 0 := Nat.mod_eq_zero_of_dvd multiple
  rw [roundQuotient, Nat.div_one, Nat.one_mul, rest]
  rw [if_pos (by simpa using spacing_pos units), Nat.mul_div_cancel' multiple]

theorem roundQuotient_mul {c : Nat} (positive : 0 < c) (n d : Nat) :
    roundQuotient (c * n) (c * d) = roundQuotient n d := by
  have scaled (step : Nat) : c * d * step = c * (d * step) := Nat.mul_assoc ..
  have twice (rest : Nat) : 2 * (c * rest) = c * (2 * rest) := Nat.mul_left_comm ..
  simp only [roundQuotient, Nat.mul_div_mul_left _ _ positive, scaled, Nat.mul_mod_mul_left, twice,
    Nat.mul_lt_mul_left positive]

theorem log2_mul_two_pow {n : Nat} (positive : 0 < n) (k : Nat) :
    (n * 2 ^ k).log2 = n.log2 + k := by
  have nonzero : n ≠ 0 := by omega
  have shifted : n * 2 ^ k ≠ 0 := Nat.mul_ne_zero nonzero (Nat.ne_of_gt (Nat.two_pow_pos k))
  have low := Nat.log2_self_le nonzero
  have high := Nat.lt_log2_self (n := n)
  rw [Nat.log2_eq_iff shifted]
  constructor
  · rw [Nat.pow_add]
    exact Nat.mul_le_mul_right _ low
  · rw [Nat.add_right_comm, Nat.pow_add]
    exact Nat.mul_lt_mul_of_pos_right high (Nat.two_pow_pos k)

/-- Whole numbers up to 2⁵³ are multiples of the step of their size. -/
theorem spacing_dvd {n : Nat} (small : n ≤ 2 ^ 53) : spacing (n * one) ∣ n * one := by
  obtain ⟨k, wide, unit⟩ := exists_one
  rcases Nat.eq_zero_or_pos n with rfl | positive
  · rw [Nat.zero_mul]
    exact Nat.dvd_zero _
  have nonzero : n ≠ 0 := by omega
  rw [spacing, Nat.pow_eq, unit, log2_mul_two_pow positive]
  rcases Nat.lt_or_ge n (2 ^ 53) with below | top
  · have bits : n.log2 < 53 := (Nat.log2_lt nonzero).mpr below
    exact Nat.dvd_mul_left_of_dvd (Nat.pow_dvd_pow 2 (by omega)) n
  · obtain rfl : n = 2 ^ 53 := by omega
    rw [Nat.log2_two_pow, ← Nat.pow_add]
    exact Nat.pow_dvd_pow 2 (by omega)

theorem representable_small {n : Nat} (small : n ≤ 2 ^ 53) : Representable (n * one) := by
  refine ⟨?_, Nat.mod_eq_zero_of_dvd (spacing_dvd small)⟩
  obtain ⟨k, wide, unit⟩ := exists_one
  rcases Nat.eq_zero_or_pos n with rfl | positive
  · rw [Nat.zero_mul]
    decide
  · have bits : n.log2 < 54 := (Nat.log2_lt (by omega)).mpr (by omega)
    rw [unit, log2_mul_two_pow positive]
    omega

theorem le_one : 2 ^ 52 ≤ one := by
  obtain ⟨k, wide, unit⟩ := exists_one
  rw [unit]
  exact Nat.pow_le_pow_right (by decide) (by omega)

/-- A whole number is changed by one part in 2⁵³ at most. -/
theorem roundQuotient_whole {n : Nat} (positive : 0 < n) :
    2 ^ 53 * roundQuotient (n * one) 1 ≤ 2 ^ 53 * (n * one) + n * one ∧
      2 ^ 53 * (n * one) ≤ 2 ^ 53 * roundQuotient (n * one) 1 + n * one := by
  have large : 2 ^ 52 ≤ n * one := Nat.le_trans le_one (Nat.le_mul_of_pos_left one positive)
  have step := spacing_mul_le large
  obtain ⟨above, below⟩ := roundQuotient_near (n * one)
  constructor <;> omega

end Binary64

end ODataQuery
