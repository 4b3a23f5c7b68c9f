import ODataQuery.Proofs.Number.Rounding

/-! Shortest decimals of rounded whole numbers. The search for the shortest decimal finds the whole
number itself up to 2⁵³, and beyond that when it has at most fifteen digits before its zeros: then
no other decimal as short is rounded to the same number. -/
namespace ODataQuery

open Binary64

namespace Decimal

/-- A decimal without digits behind the point, and the whole number it is. -/
def Denotes (d : Decimal) (n : Nat) : Prop := ∃ e : Nat, d.exponent = e ∧ d.digits * 10 ^ e = n

theorem Denotes.stripZeros {d : Decimal} {n : Nat} (h : d.Denotes n) (fuel : Nat) :
    (stripZeros fuel d).Denotes n := by
  induction fuel generalizing d with
  | zero => exact h
  | succ fuel ih =>
    rw [Decimal.stripZeros]
    split
    · rename_i ends
      obtain ⟨e, exponent, value⟩ := h
      have divided : d.digits / 10 * 10 = d.digits :=
        Nat.div_mul_cancel (Nat.dvd_of_mod_eq_zero ends.2)
      refine ih ⟨e + 1, by simp [exponent], ?_⟩
      rw [Nat.pow_succ', ← Nat.mul_assoc, divided, value]
    · exact h

theorem digitsOf_mul_ten_pow {n : Nat} (positive : 0 < n) (e : Nat) :
    digitsOf (n * 10 ^ e) = digitsOf n ++ List.replicate e '0' := by
  induction e with
  | zero => simp
  | succ e ih =>
    have shifted : 0 < n * 10 ^ e := Nat.mul_pos positive (Nat.pow_pos (by decide))
    have last : digitsOf (n * 10 ^ e) ++ ['0'] = digitsOf (10 * (n * 10 ^ e)) :=
      Nat.toDigits_append_toDigits (d := 0) (by decide) shifted (by decide)
    rw [List.replicate_succ', ← List.append_assoc, ← ih, last, Nat.pow_succ, ← Nat.mul_assoc,
      Nat.mul_comm 10]

theorem Denotes.positional {d : Decimal} {n : Nat} (h : d.Denotes n) :
    d.positional = digitsOf n := by
  obtain ⟨e, exponent, rfl⟩ := h
  rw [Decimal.positional, exponent]
  by_cases none : d.digits = 0
  · rw [if_pos none, none, Nat.zero_mul]
    rfl
  · rw [if_neg none, if_pos (Int.natCast_nonneg e), Int.natAbs_natCast,
      digitsOf_mul_ten_pow (by omega)]

theorem round_whole {k e : Nat} (nonzero : k ≠ 0) (bounded : e ≤ 400) (negative : Bool) :
    round negative ⟨k, e⟩ = .ofQuotient negative (k * 10 ^ e * one) 1 := by
  have near : ¬ (400 : Int) < e := by omega
  have far : ¬ (e : Int) + (digitsOf k).length < -400 := by omega
  have sign : ¬ (e : Int) < 0 := by omega
  rw [round, if_neg nonzero, if_neg near, if_neg far, powerOfTen, if_neg sign]
  rfl

theorem ofUnits_eq_finite_iff {s t : Bool} {units : Nat} {m : Magnitude} :
    ofUnits s units = .finite t m ↔ s = t ∧ units = m.units := by
  unfold ofUnits
  constructor
  · intro h
    split at h
    · cases h
      exact ⟨rfl, rfl⟩
    · cases h
  · rintro ⟨rfl, rfl⟩
    rw [dif_pos m.representable]

theorem readsBack_whole {m : Magnitude} {k e : Nat} (positive : m.units ≠ 0) (bounded : e ≤ 400) :
    readsBack m ⟨k, e⟩ = true ↔ k ≠ 0 ∧ roundQuotient (k * 10 ^ e * one) 1 = m.units := by
  rw [readsBack, beq_iff_eq]
  by_cases zero : k = 0
  · have empty : round false ⟨k, e⟩ = .zero false := by
      rw [round, if_pos zero]
    rw [empty, Binary64.zero]
    constructor
    · intro same
      cases same
      exact absurd rfl positive
    · rintro ⟨nonzero, -⟩
      exact absurd zero nonzero
  · rw [round_whole zero bounded, ofQuotient, ofUnits_eq_finite_iff]
    exact ⟨fun same => ⟨zero, same.2⟩, fun same => ⟨rfl, same.2⟩⟩

theorem withDigits_sound {m : Magnitude} {count : Nat} {d : Decimal}
    (h : withDigits m count = some d) :
    readsBack m d = true ∧ d.exponent = pointOf m.units - count := by
  have found := List.find?_some h
  refine ⟨found, ?_⟩
  have member := List.mem_of_find?_eq_some h
  split at member
  all_goals
    simp only [List.mem_cons, List.not_mem_nil, or_false] at member
    rcases member with rfl | rfl <;> rfl

/-- What is found with fewer digits than are before the point is a whole number. -/
theorem withDigits_whole {m : Magnitude} {count e : Nat} {d : Decimal} (positive : m.units ≠ 0)
    (point : pointOf m.units = (count + e : Nat)) (bounded : e ≤ 400)
    (found : withDigits m count = some d) :
    ∃ k, d = ⟨k, (e : Nat)⟩ ∧ 0 < k * 10 ^ e ∧
      roundQuotient (k * 10 ^ e * one) 1 = m.units := by
  obtain ⟨k, exponent⟩ := d
  obtain ⟨back, same⟩ := withDigits_sound found
  obtain rfl : exponent = (e : Nat) := by
    change exponent = _ at same
    rw [same, point]
    omega
  obtain ⟨filled, rounded⟩ := (readsBack_whole positive bounded).mp back
  exact ⟨k, rfl, Nat.mul_pos (by omega) (Nat.pow_pos (by decide)), rounded⟩

theorem withDigits_complete {m : Magnitude} {count k : Nat}
    (near : k = floorOn (pointOf m.units - count) m.units ∨
      k = floorOn (pointOf m.units - count) m.units + 1)
    (reads : readsBack m ⟨k, pointOf m.units - count⟩ = true) :
    ∃ d, withDigits m count = some d := by
  rw [← Option.isSome_iff_exists, withDigits, List.find?_isSome]
  refine ⟨_, ?_, reads⟩
  rcases near with below | above
  · rw [below]
    split
    · exact List.mem_cons_self
    · exact List.mem_cons_of_mem _ List.mem_cons_self
  · rw [above]
    split
    · exact List.mem_cons_of_mem _ List.mem_cons_self
    · exact List.mem_cons_self

/-- The search stops at the first count of digits at which it finds a decimal. -/
theorem shortest_denotes {m : Magnitude} {n last : Nat} (positive : m.units ≠ 0)
    (range : 1 ≤ last ∧ last ≤ 17) (found : ∃ d, withDigits m last = some d)
    (each : ∀ count, 1 ≤ count → count ≤ last → ∀ d, withDigits m count = some d → d.Denotes n) :
    (shortest m).Denotes n := by
  rw [shortest, if_neg positive]
  split
  · rename_i d first
    refine Denotes.stripZeros ?_ 20
    obtain ⟨before, count, after, split, here, none⟩ := List.findSome?_eq_some_iff.mp first
    have ordered := List.pairwise_lt_range' (s := 1) (n := 17) 1
    have member : last ∈ List.range' 1 17 := List.mem_range'_1.mpr ⟨range.1, by omega⟩
    have counted : count ∈ List.range' 1 17 := by
      rw [split]
      simp
    obtain ⟨low, -⟩ := List.mem_range'_1.mp counted
    refine each count low ?_ d here
    rw [split] at ordered member
    rcases List.mem_append.mp member with early | late
    · obtain ⟨_, some⟩ := found
      rw [none last early] at some
      cases some
    · rcases List.mem_cons.mp late with rfl | late
      · exact Nat.le_refl _
      · have behind := (List.pairwise_append.mp ordered).2.1
        exact Nat.le_of_lt ((List.pairwise_cons.mp behind).1 last late)
  · rename_i none
    obtain ⟨d, some⟩ := found
    have missing := List.findSome?_eq_none_iff.mp none last
      (List.mem_range'_1.mpr ⟨range.1, by omega⟩)
    rw [some] at missing
    cases missing

theorem floorOn_whole (e units : Nat) : floorOn e units = units / (one * 10 ^ e) := by
  have sign : ¬ (e : Int) < 0 := by omega
  rw [floorOn, powerOfTen, if_neg sign]
  dsimp only
  rw [Nat.mul_one]
  rfl

theorem floorIsNearer_whole (e units : Nat) :
    floorIsNearer e units = decide (2 * (units % (one * 10 ^ e)) < one * 10 ^ e) := by
  have sign : ¬ (e : Int) < 0 := by omega
  rw [floorIsNearer, powerOfTen, if_neg sign]
  dsimp only
  rw [Nat.mul_one]
  rfl

theorem pointOf_whole {units : Nat} (large : one ≤ units) :
    pointOf units = (digitsOf (units / one)).length := by
  rw [pointOf, if_pos large]

theorem length_digitsOf_le_iff {n k : Nat} (positive : 0 < k) :
    (digitsOf n).length ≤ k ↔ n < 10 ^ k :=
  Nat.length_toDigits_le_iff (by decide) positive

theorem length_digitsOf_pos (n : Nat) : 0 < (digitsOf n).length := Nat.length_toDigits_pos

/-- A multiple of ten that is rounded to a whole number up to 2⁵³ is that number. -/
theorem eq_of_round_small {n v : Nat} (small : n ≤ 2 ^ 53) (positive : 0 < v) (tens : 10 ∣ v)
    (rounded : roundQuotient (v * one) 1 = n * one) : v = n := by
  rcases Nat.lt_or_ge (2 ^ 53) v with large | smaller
  · obtain ⟨t, multiple⟩ := tens
    have below := (roundQuotient_whole positive).2
    rw [rounded, ← Nat.mul_assoc, ← Nat.mul_assoc, ← Nat.add_mul] at below
    have cancelled := Nat.le_of_mul_le_mul_right below one_positive
    omega
  · rw [roundQuotient_of_dvd (spacing_dvd smaller)] at rounded
    exact Nat.eq_of_mul_eq_mul_right one_positive rounded

theorem shortest_small {m : Magnitude} {n : Nat} (positive : 0 < n) (small : n ≤ 2 ^ 53)
    (units : m.units = n * one) : (shortest m).Denotes n := by
  have nonzero : m.units ≠ 0 := by
    rw [units]
    exact Nat.ne_of_gt (Nat.mul_pos positive one_positive)
  have point : pointOf m.units = (digitsOf n).length := by
    rw [pointOf_whole (units ▸ Nat.le_mul_of_pos_left one positive), units,
      Nat.mul_div_cancel n one_positive]
  have short : (digitsOf n).length ≤ 16 := (length_digitsOf_le_iff (by decide)).mpr (by omega)
  have floor : floorOn (0 : Nat) m.units = n := by
    rw [floorOn_whole, units, Nat.pow_zero, Nat.mul_one, Nat.mul_div_cancel n one_positive]
  have reads : readsBack m ⟨n, (0 : Nat)⟩ = true := by
    rw [readsBack_whole nonzero (by decide), Nat.pow_zero, Nat.mul_one, units]
    exact ⟨Nat.ne_of_gt positive, roundQuotient_of_dvd (spacing_dvd small)⟩
  -- with all digits the number itself is tried first, and with fewer only multiples of ten
  have whole : withDigits m (digitsOf n).length = some ⟨n, (0 : Nat)⟩ := by
    have exponent : pointOf m.units - (digitsOf n).length = (0 : Nat) := by
      rw [point]
      omega
    have nearer : floorIsNearer (0 : Nat) m.units = true := by
      rw [floorIsNearer_whole, units, Nat.pow_zero, Nat.mul_one, Nat.mul_mod_left]
      exact decide_eq_true one_positive
    rw [withDigits, exponent, floor, nearer, if_pos rfl, List.find?_cons_of_pos reads]
  refine shortest_denotes nonzero ⟨length_digitsOf_pos n, by omega⟩ ⟨_, whole⟩ ?_
  intro count low high d found
  rcases Nat.eq_or_lt_of_le high with rfl | fewer
  · rw [whole] at found
    cases found
    exact ⟨0, rfl, by simp⟩
  · obtain ⟨e, rest⟩ : ∃ e, (digitsOf n).length = count + (e + 1) :=
      ⟨(digitsOf n).length - count - 1, by omega⟩
    rw [rest] at point
    obtain ⟨k, rfl, more, rounded⟩ := withDigits_whole nonzero point (by omega) found
    rw [units] at rounded
    have tens : 10 ∣ k * 10 ^ (e + 1) := by
      rw [Nat.pow_succ, ← Nat.mul_assoc]
      exact Nat.dvd_mul_left ..
    exact ⟨e + 1, rfl, eq_of_round_small small more tens rounded⟩

def Near (units step a : Nat) : Prop :=
  2 ^ 53 * units ≤ 2 ^ 53 * (a * step) + a * step ∧ 2 ^ 53 * (a * step) ≤ 2 ^ 53 * units + a * step

/-- Below 10¹⁵ steps only one number of steps is rounded to a magnitude. -/
theorem Near.unique {units step a b : Nat} (low : units < 10 ^ 15 * step)
    (first : Near units step a) (second : Near units step b) : a = b := by
  have apart {a b : Nat} (first : Near units step a) (second : Near units step b) : ¬ a < b := by
    intro less
    have gap : a * step + step ≤ b * step := by
      rw [← Nat.succ_mul]
      exact Nat.mul_le_mul_right step less
    obtain ⟨above, -⟩ := first
    obtain ⟨-, below⟩ := second
    omega
  have notLess := apart first second
  have notGreater := apart second first
  omega

/-- It is the whole number of steps below the magnitude, or the next one. -/
theorem Near.floor {units step a : Nat} (low : units < 10 ^ 15 * step) (near : Near units step a) :
    a = units / step ∨ a = units / step + 1 := by
  obtain ⟨above, below⟩ := near
  have positive : 0 < step := by
    rcases Nat.eq_zero_or_pos step with rfl | positive
    · omega
    · exact positive
  have divided := Nat.div_add_mod' units step
  have rest := Nat.mod_lt units positive
  have under : a * step < (units / step + 2) * step := by
    rw [Nat.add_mul]
    omega
  have next : units / step * step < (a + 1) * step := by
    rw [Nat.succ_mul]
    omega
  have high := Nat.lt_of_mul_lt_mul_right under
  have least := Nat.lt_of_mul_lt_mul_right next
  omega

theorem near_whole {n e a : Nat} (positive : 0 < n) (multiple : n = a * 10 ^ e) :
    Near (roundQuotient (n * one) 1) (10 ^ e * one) a := by
  have scaled : a * (10 ^ e * one) = n * one := by rw [← Nat.mul_assoc, multiple]
  rw [Near, scaled]
  exact roundQuotient_whole positive

theorem length_digitsOf_le {n k : Nat} (positive : 0 < k) (bits : n < 2 ^ (3 * k)) :
    (digitsOf n).length ≤ k := by
  rw [length_digitsOf_le_iff positive]
  refine Nat.lt_of_lt_of_le bits ?_
  rw [Nat.pow_mul]
  exact Nat.pow_le_pow_left (by decide) k

/-- Finite magnitudes have so few digits that their powers of ten are not cut off. -/
theorem length_digitsOf_units (m : Magnitude) {i : Nat} (many : 342 ≤ i) :
    (digitsOf (m.units / one)).length ≤ i := by
  obtain ⟨k, wide, unit⟩ := exists_one
  have bits := m.representable.1
  refine length_digitsOf_le (by omega) ?_
  rw [Nat.div_lt_iff_lt_mul one_positive, unit, ← Nat.pow_add]
  calc m.units < 2 ^ (m.units.log2 + 1) := Nat.lt_log2_self
    _ ≤ 2 ^ (3 * i + k) := Nat.pow_le_pow_right (by decide) (by omega)

/-- A rounded whole number with fifteen digits before its zeros, that is large enough for the
magnitude to have more. The place of the fifteenth digit of the magnitude is the step. -/
theorem exists_step {m : Magnitude} {n a j : Nat} (large : 2 ^ 53 < n) (digits : n = a * 10 ^ j)
    (fifteen : a < 10 ^ 15) (units : m.units = roundQuotient (n * one) 1) :
    ∃ q, pointOf m.units = (q + 15 : Nat) ∧ q ≤ j ∧ q ≤ 385 ∧
      m.units < 10 ^ 15 * (10 ^ q * one) := by
  have positive : 0 < n := by omega
  have unit := one_positive
  obtain ⟨above, below⟩ := roundQuotient_whole positive
  rw [← units] at above below
  have scaled : 2 ^ 53 * one < n * one := Nat.mul_lt_mul_of_pos_right large unit
  have point : pointOf m.units = (digitsOf (m.units / one)).length := pointOf_whole (by omega)
  have bounded := length_digitsOf_units m (Nat.le_refl 342)
  generalize length : (digitsOf (m.units / one)).length = p at point bounded
  have size (k : Nat) (some : 0 < k) : p ≤ k ↔ m.units < 10 ^ k * one := by
    rw [← length, length_digitsOf_le_iff some, Nat.div_lt_iff_lt_mul unit]
  have sixteen : 15 < p := by
    have many := not_congr (size 15 (by decide))
    omega
  obtain ⟨q, rfl⟩ : ∃ q, p = q + 15 := ⟨p - 15, by omega⟩
  refine ⟨q, point, ?_, by omega, ?_⟩
  · apply Nat.le_of_not_lt
    intro before
    have more : ¬ m.units < 10 ^ (q + 14) * one := (not_congr (size _ (by omega))).mp (by omega)
    have power : 10 ^ (j + 15) * one ≤ 10 ^ (q + 14) * one :=
      Nat.mul_le_mul_right one (Nat.pow_le_pow_right (by decide) (by omega))
    have regrouped : 10 ^ (j + 15) * one = 10 ^ 15 * (10 ^ j * one) := by
      rw [Nat.pow_add, Nat.mul_comm (10 ^ j), Nat.mul_assoc]
    have value : n * one ≤ (10 ^ 15 - 1) * (10 ^ j * one) := by
      rw [digits, Nat.mul_assoc]
      exact Nat.mul_le_mul_right _ (by omega)
    have place : 0 < 10 ^ j * one := Nat.mul_pos (Nat.pow_pos (by decide)) unit
    omega
  · have fits := (size (q + 15) (by omega)).mp (Nat.le_refl _)
    rwa [Nat.pow_add, Nat.mul_comm (10 ^ q), Nat.mul_assoc] at fits

theorem shortest_fifteen {m : Magnitude} {n a j : Nat} (large : 2 ^ 53 < n)
    (digits : n = a * 10 ^ j) (fifteen : a < 10 ^ 15)
    (units : m.units = roundQuotient (n * one) 1) : (shortest m).Denotes n := by
  have positive : 0 < n := by omega
  obtain ⟨q, point, steps, bounded, low⟩ := exists_step large digits fifteen units
  have multiple : n = a * 10 ^ (j - q) * 10 ^ q := by
    rw [Nat.mul_assoc, ← Nat.pow_add, Nat.sub_add_cancel steps, digits]
  generalize a * 10 ^ (j - q) = b at multiple
  -- every decimal of at most fifteen digits that reads back is the same number of steps
  have near : Near m.units (10 ^ q * one) b := units ▸ near_whole positive multiple
  have nonzero : m.units ≠ 0 := by
    have below := (roundQuotient_whole positive).2
    have some : 0 < n * one := Nat.mul_pos positive one_positive
    omega
  refine shortest_denotes nonzero ⟨by decide, (by decide : 15 ≤ 17)⟩ ?_ ?_
  · have exponent : pointOf m.units - (15 : Nat) = (q : Nat) := by
      rw [point]
      omega
    refine withDigits_complete (k := b) ?_ ?_
    · rw [exponent, floorOn_whole, Nat.mul_comm one]
      exact near.floor low
    · rw [exponent, readsBack_whole nonzero (by omega), ← multiple]
      refine ⟨?_, units.symm⟩
      rintro rfl
      omega
  · intro count first last d found
    obtain ⟨r, rest⟩ : ∃ r, 15 = count + r := ⟨15 - count, by omega⟩
    have place : q + 15 = count + (r + q) := by omega
    rw [place] at point
    obtain ⟨k, rfl, more, rounded⟩ := withDigits_whole nonzero point (by omega) found
    have split : k * 10 ^ (r + q) = k * 10 ^ r * 10 ^ q := by rw [Nat.pow_add, ← Nat.mul_assoc]
    have other : Near m.units (10 ^ q * one) (k * 10 ^ r) := rounded ▸ near_whole more split
    refine ⟨r + q, rfl, ?_⟩
    rw [split, other.unique low near, ← multiple]

end Decimal

end ODataQuery
