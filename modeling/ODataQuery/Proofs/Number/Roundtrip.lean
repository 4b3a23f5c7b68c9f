import ODataQuery.Proofs.Number.Digits
import ODataQuery.Proofs.Number.Shortest

/-! Numbers read back from their text. The shortest decimal of a magnitude is rounded to it again, with
or without the zeros at its end, and its positional form has the same value. -/
namespace ODataQuery

open Binary64

namespace Decimal

theorem round_of_readsBack {m : Magnitude} {d : Decimal} (reads : readsBack m d = true)
    (negative : Bool) : round negative d = .finite negative m := by
  have same : round false d = .finite false m := beq_iff_eq.mp reads
  rw [round] at same ⊢
  by_cases none : d.digits = 0
  · rw [if_pos none] at same ⊢
    cases same
    rfl
  rw [if_neg none] at same ⊢
  by_cases large : 400 < d.exponent
  · rw [if_pos large] at same
    cases same
  rw [if_neg large] at same ⊢
  by_cases small : d.exponent + (digitsOf d.digits).length < -400
  · rw [if_pos small] at same ⊢
    cases same
    rfl
  rw [if_neg small] at same ⊢
  exact ofUnits_eq_finite_iff.mpr ⟨rfl, (ofUnits_eq_finite_iff.mp same).2⟩

theorem powerOfTen_nat (e : Nat) : powerOfTen e = (10 ^ e, 1) := if_neg (by omega)

theorem powerOfTen_neg (e : Nat) : powerOfTen (-e) = (1, 10 ^ e) := by
  cases e with
  | zero => rfl
  | succ e => exact if_pos (by omega)

/-- A zero at the end of the digits counts as a power of ten. -/
theorem round_shift {k : Nat} (nonzero : k ≠ 0) {e : Int} (top : e < 400) (negative : Bool) :
    round negative ⟨k * 10, e⟩ = round negative ⟨k, e + 1⟩ := by
  have length : (digitsOf (k * 10)).length = (digitsOf k).length + 1 := by
    have digits := digitsOf_mul_ten_pow (Nat.pos_of_ne_zero nonzero) 1
    rw [Nat.pow_one] at digits
    simp [digits]
  have place : e + ((digitsOf k).length + 1 : Nat) = e + 1 + (digitsOf k).length := by omega
  have inside : ¬ 400 < e ∧ ¬ 400 < e + 1 := by omega
  simp only [round, Nat.mul_ne_zero nonzero (by decide : (10 : Nat) ≠ 0), nonzero, inside, length,
    place, if_false]
  by_cases small : e + 1 + (digitsOf k).length < -400
  · rw [if_pos small, if_pos small]
  rw [if_neg small, if_neg small]
  obtain ⟨n, rfl | rfl⟩ := Int.eq_nat_or_neg e
  · have next : (n : Int) + 1 = (n + 1 : Nat) := rfl
    rw [next, powerOfTen_nat, powerOfTen_nat]
    dsimp only
    rw [Nat.mul_assoc k, ← Nat.pow_succ']
  · cases n with
    | zero => simp [powerOfTen]
    | succ n =>
      -- the zero is taken out of numerator and denominator, and the quotient is rounded alike
      have next : -((n + 1 : Nat) : Int) + 1 = -(n : Int) := by omega
      rw [next, powerOfTen_neg, powerOfTen_neg]
      have tens : k * 10 * 1 * one = 10 * (k * 1 * one) := by
        rw [Nat.mul_one, Nat.mul_one, Nat.mul_comm k, Nat.mul_assoc]
      dsimp only
      rw [ofQuotient, ofQuotient, tens, Nat.pow_succ', roundQuotient_mul (by decide)]

theorem round_stripZeros (negative : Bool) (fuel : Nat) {d : Decimal}
    (top : d.exponent + fuel ≤ 400) : round negative (stripZeros fuel d) = round negative d := by
  induction fuel generalizing d with
  | zero => rfl
  | succ fuel ih =>
    obtain ⟨k, e⟩ := d
    dsimp only at top
    rw [stripZeros]
    split
    · rename_i zeros
      dsimp only at zeros ⊢
      have divided : k / 10 * 10 = k := Nat.div_mul_cancel (Nat.dvd_of_mod_eq_zero zeros.2)
      rw [ih (by dsimp only; omega), ← round_shift (by omega) (by omega), divided]
    · rfl

/-- Before the point stand no more digits than the greatest magnitude has. -/
theorem pointOf_le (m : Magnitude) : pointOf m.units ≤ 342 := by
  rw [pointOf]
  split
  · exact Int.ofNat_le.mpr (length_digitsOf_units m (Nat.le_refl 342))
  · rename_i small
    obtain ⟨k, wide, power⟩ : ∃ k, k = 324 ∧ Nat.pow 10 324 = 10 ^ k := ⟨_, rfl, Nat.pow_eq⟩
    have digits : (digitsOf (m.units * 10 ^ k / one)).length ≤ k := by
      rw [length_digitsOf_le_iff (by omega), Nat.div_lt_iff_lt_mul one_positive, Nat.mul_comm]
      exact Nat.mul_lt_mul_of_pos_left (Nat.lt_of_not_le small) (Nat.pow_pos (by decide))
    rw [power]
    omega

/-- All digits of a magnitude, with its large powers kept apart from their values. -/
theorem exact_eq (m : Magnitude) :
    ∃ k : Nat, k = 1074 ∧ one = 2 ^ k ∧ exact m = ⟨m.units * 5 ^ k, -k⟩ := by
  refine ⟨_, rfl, Nat.pow_eq, ?_⟩
  rw [exact, Nat.pow_eq]
  rfl

theorem ten_pow_le {i j : Nat} (half : j ≤ 2 * i) : 10 ^ j ≤ 5 ^ (i + j) :=
  calc 10 ^ j = 2 ^ j * 5 ^ j := Nat.mul_pow 2 5 j
    _ ≤ 2 ^ (2 * i) * 5 ^ j := Nat.mul_le_mul_right _ (Nat.pow_le_pow_right (by decide) half)
    _ = 4 ^ i * 5 ^ j := by rw [Nat.pow_mul]
    _ ≤ 5 ^ i * 5 ^ j := Nat.mul_le_mul_right _ (Nat.pow_le_pow_left (by decide) i)
    _ = 5 ^ (i + j) := (Nat.pow_add ..).symm

theorem readsBack_exact {m : Magnitude} (nonzero : m.units ≠ 0) : readsBack m (exact m) = true := by
  obtain ⟨k, wide, unit, digits⟩ := exact_eq m
  have positive : 0 < m.units := Nat.pos_of_ne_zero nonzero
  have filled : m.units * 5 ^ k ≠ 0 :=
    Nat.mul_ne_zero nonzero (Nat.ne_of_gt (Nat.pow_pos (by decide)))
  -- the exponent is far below what counts as zero, and the number of digits makes up for it
  have many : ¬ (digitsOf (m.units * 5 ^ k)).length ≤ 673 := by
    obtain ⟨i, split, half⟩ : ∃ i, k = i + 673 ∧ 673 ≤ 2 * i := ⟨401, by omega, by omega⟩
    rw [length_digitsOf_le_iff (by decide), Nat.not_lt, split]
    exact Nat.le_trans (ten_pow_le half) (Nat.le_mul_of_pos_left _ positive)
  have tens : m.units * 5 ^ k * 1 * one = 10 ^ k * m.units := by
    rw [unit, Nat.mul_one, Nat.mul_assoc, ← Nat.mul_pow, Nat.mul_comm]
  have rounded : roundQuotient (10 ^ k * m.units) (10 ^ k) = m.units := by
    have scaled := roundQuotient_mul (Nat.pow_pos (n := k) (by decide : 0 < 10)) m.units 1
    rw [Nat.mul_one] at scaled
    rw [scaled, roundQuotient_of_dvd (Nat.dvd_of_mod_eq_zero m.representable.2)]
  have near : ¬ (400 : Int) < -k := by omega
  have far : ¬ -(k : Int) + (digitsOf (m.units * 5 ^ k)).length < -400 := by omega
  rw [readsBack, beq_iff_eq, digits, round]
  simp only [filled, near, far, if_false, powerOfTen_neg, tens]
  rw [ofQuotient, rounded, ofUnits_units]

theorem round_shortest {m : Magnitude} (nonzero : m.units ≠ 0) (negative : Bool) :
    round negative (shortest m) = .finite negative m := by
  rw [shortest, if_neg nonzero]
  split
  · rename_i d found
    obtain ⟨count, member, some⟩ := List.exists_of_findSome?_eq_some found
    obtain ⟨reads, exponent⟩ := withDigits_sound some
    have low := (List.mem_range'_1.mp member).1
    have point := pointOf_le m
    rw [round_stripZeros negative 20 (by omega), round_of_readsBack reads]
  · exact round_of_readsBack (readsBack_exact nonzero) negative

/-- A decimal that is rounded to a magnitude other than zero is one, and not out of reach. -/
theorem reach_of_round {d : Decimal} {m : Magnitude} {negative : Bool} (nonzero : m.units ≠ 0)
    (rounded : round negative d = .finite negative m) : d.digits ≠ 0 ∧ d.exponent ≤ 400 := by
  rw [round] at rounded
  by_cases none : d.digits = 0
  · rw [if_pos none] at rounded
    cases rounded
    exact absurd rfl nonzero
  by_cases large : 400 < d.exponent
  · rw [if_neg none, if_pos large] at rounded
    cases rounded
  exact ⟨none, Int.not_lt.mp large⟩

theorem isDigit_of_mem_digitsOf {n : Nat} {c : Char} (member : c ∈ digitsOf n) : isDigit c = true :=
  isDigit_of_isDigit (Nat.isDigit_of_mem_toDigits (by decide) (by decide) member)

theorem digitsOf_ne_nil (n : Nat) : digitsOf n ≠ [] := Nat.toDigits_ne_nil

theorem exists_digit_positional (d : Decimal) :
    ∃ c cs, d.positional = c :: cs ∧ isDigit c = true := by
  have first {front : List Char} (nonempty : front ≠ []) (part : ∀ c ∈ front, c ∈ digitsOf d.digits)
      (back : List Char) : ∃ c cs, front ++ back = c :: cs ∧ isDigit c = true := by
    obtain ⟨c, cs, rfl⟩ := List.exists_cons_of_ne_nil nonempty
    exact ⟨c, cs ++ back, rfl, isDigit_of_mem_digitsOf (part c List.mem_cons_self)⟩
  unfold positional
  dsimp only
  split
  · exact ⟨'0', [], rfl, by decide⟩
  split
  · exact first (digitsOf_ne_nil _) (fun _ member => member) _
  split
  · rename_i places
    refine first ?_ (fun _ => List.mem_of_mem_take) _
    rw [ne_eq, List.take_eq_nil_iff, not_or]
    exact ⟨by omega, digitsOf_ne_nil _⟩
  · exact ⟨'0', _, rfl, by decide⟩

/-- With places behind the point all digits are read as they are. -/
theorem decimalOf?_places {k n : Nat} (nonzero : k ≠ 0) (places : 0 < n) :
    decimalOf? (positional ⟨k, -n⟩) = some ⟨k, -n⟩ := by
  have negative : ¬ 0 ≤ -(n : Int) := by omega
  have decimal : ∀ c ∈ digitsOf k, isDigit c = true := fun c => isDigit_of_mem_digitsOf
  simp only [positional, nonzero, negative, if_false, Int.natAbs_neg, Int.natAbs_natCast]
  split
  · rename_i inside
    have front : (digitsOf k).take ((digitsOf k).length - n) ≠ [] := by
      rw [ne_eq, List.take_eq_nil_iff, not_or]
      exact ⟨by omega, digitsOf_ne_nil _⟩
    rw [decimalOf?_point front (fun c member => decimal c (List.mem_of_mem_take member))
      (fun c member => decimal c (List.mem_of_mem_drop member)), List.take_append_drop,
      valueOfDigits_digitsOf, List.length_drop, Nat.sub_sub_self (Nat.le_of_lt inside)]
  · have behind : ∀ c ∈ List.replicate (n - (digitsOf k).length) '0' ++ digitsOf k,
        isDigit c = true := by
      intro c member
      rcases List.mem_append.mp member with zero | digit
      · obtain ⟨-, rfl⟩ := List.mem_replicate.mp zero
        rfl
      · exact decimal c digit
    have value : valueOfDigits
        (['0'] ++ (List.replicate (n - (digitsOf k).length) '0' ++ digitsOf k)) = k :=
      valueOfDigits_zeros (n - (digitsOf k).length + 1) k
    have length : (List.replicate (n - (digitsOf k).length) '0' ++ digitsOf k).length = n := by
      rw [List.length_append, List.length_replicate, Nat.sub_add_cancel (by omega)]
    have zero : ∀ c ∈ ['0'], isDigit c = true := by simp; decide
    have point := decimalOf?_point (by simp) zero behind
    rw [value, length] at point
    exact point

/-- Zeros in front of the point make another decimal of the same value. -/
theorem decimalOf?_zeros (k n : Nat) :
    decimalOf? (positional ⟨k, n⟩) = some ⟨k * 10 ^ n, (0 : Nat)⟩ := by
  have denotes : Denotes ⟨k, n⟩ (k * 10 ^ n) := ⟨n, rfl, rfl⟩
  rw [denotes.positional, decimalOf?_whole (digitsOf_ne_nil _) fun c => isDigit_of_mem_digitsOf,
    valueOfDigits_digitsOf]
  rfl

/-- Where the point stands does not change the value. -/
theorem decimalOf?_positional {d : Decimal} (nonzero : d.digits ≠ 0) (reach : d.exponent ≤ 400) :
    ∃ read, decimalOf? d.positional = some read ∧
      ∀ negative, round negative read = round negative d := by
  obtain ⟨k, e⟩ := d
  dsimp only at nonzero reach
  rcases Int.lt_or_le e 0 with behind | whole
  · obtain ⟨n, rfl⟩ : ∃ n : Nat, e = -n := ⟨e.natAbs, by omega⟩
    exact ⟨_, decimalOf?_places nonzero (by omega), fun _ => rfl⟩
  · obtain ⟨n, rfl⟩ : ∃ n : Nat, e = n := ⟨e.toNat, by omega⟩
    have filled : k * 10 ^ n ≠ 0 :=
      Nat.mul_ne_zero nonzero (Nat.ne_of_gt (Nat.pow_pos (by decide)))
    refine ⟨_, decimalOf?_zeros k n, fun negative => ?_⟩
    rw [round_whole filled (by decide), round_whole nonzero (by omega), Nat.pow_zero, Nat.mul_one]

end Decimal

namespace Binary64

theorem exists_first_text (m : Magnitude) (negative : Bool) :
    ∃ c cs, (finite negative m).text.toList = c :: cs ∧ (c = '-' ∨ c = '+' ∨ isDigit c = true) := by
  obtain ⟨c, cs, first, digit⟩ := (Decimal.shortest m).exists_digit_positional
  rw [text, String.toList_ofList, first]
  cases negative with
  | true => exact ⟨'-', c :: cs, rfl, .inl rfl⟩
  | false => exact ⟨c, cs, rfl, .inr (.inr digit)⟩

theorem ofText?_text {m : Magnitude} (nonzero : m.units ≠ 0) (negative : Bool) :
    ofText? (finite negative m).text = some (finite negative m) := by
  have rounded := Decimal.round_shortest nonzero negative
  obtain ⟨filled, reach⟩ := Decimal.reach_of_round nonzero rounded
  obtain ⟨read, decimal, same⟩ := Decimal.decimalOf?_positional filled reach
  obtain ⟨c, cs, first, digit⟩ := (Decimal.shortest m).exists_digit_positional
  have sign : splitSign (finite negative m).text.toList =
      (negative, (Decimal.shortest m).positional) := by
    rw [text, String.toList_ofList, first]
    cases negative with
    | true => rfl
    | false =>
      obtain ⟨noMinus, noPlus, -⟩ := digit_plain digit
      exact splitSign_of_plain noMinus noPlus cs
  rw [ofText?_of_digit sign first digit, decimal, Option.map_some, same, rounded]

end Binary64

end ODataQuery
