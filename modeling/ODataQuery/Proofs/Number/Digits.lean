import Mathlib.Tactic.IntervalCases
import ODataQuery.Number.Text
import ODataQuery.Proofs.Text.Parts

/-! Digits and the texts of numbers that are made of them: what they are worth, with a point among them
or not, and what cannot be part of a number. -/
namespace ODataQuery

theorem digitValue?_of_isDigit {c : Char} (h : c.isDigit = true) :
    digitValue? c = some (c.toNat - '0'.toNat) := by
  rw [digitValue?, if_pos]
  simpa [Char.isDigit, Char.le_def] using h

theorem isDigit_of_isDigit {c : Char} (h : c.isDigit = true) : isDigit c = true := by
  rw [isDigit, digitValue?_of_isDigit h]
  rfl

theorem plain_of_isDigit {c : Char} (h : c.isDigit = true) :
    Text.isBlank c = false ∧ c ≠ '-' ∧ c ≠ '+' := by
  have low : 48 ≤ c.toNat := (Char.isDigit_iff_toNat.mp h).1
  have high : c.toNat ≤ 57 := (Char.isDigit_iff_toNat.mp h).2
  rw [← Char.ofNat_toNat c]
  interval_cases c.toNat <;> decide

theorem isDigit_iff {c : Char} : isDigit c = true ↔ '0' ≤ c ∧ c ≤ '9' := by
  unfold isDigit digitValue?
  split <;> simp_all

theorem digit_plain {c : Char} (h : isDigit c = true) : c ≠ '-' ∧ c ≠ '+' ∧ c.toLower = c := by
  obtain ⟨low, high⟩ := isDigit_iff.mp h
  have low : 48 ≤ c.toNat := low
  have high : c.toNat ≤ 57 := high
  rw [← Char.ofNat_toNat c]
  interval_cases c.toNat <;> decide

theorem map_toLower_ne {c k : Char} {cs ks : List Char}
    (plain : c = '-' ∨ c = '+' ∨ isDigit c = true) (letter : 'a' ≤ k) :
    (c :: cs).map Char.toLower ≠ k :: ks := by
  intro same
  obtain rfl : c.toLower = k := (List.cons.inj same).1
  rcases plain with rfl | rfl | digit
  · exact absurd letter (by decide)
  · exact absurd letter (by decide)
  · rw [(digit_plain digit).2.2] at letter
    exact absurd (Char.le_trans letter (isDigit_iff.mp digit).2) (by decide)

theorem valueOfDigits_eq {cs : List Char} (digits : ∀ c ∈ cs, c.isDigit = true) :
    valueOfDigits cs = Nat.ofDigitChars 10 cs 0 := by
  rw [valueOfDigits, Nat.ofDigitChars_eq_foldl]
  generalize 0 = start
  induction cs generalizing start with
  | nil => rfl
  | cons c rest ih =>
    rw [List.foldl_cons, List.foldl_cons, digitValue?_of_isDigit (digits c (by simp)),
      ih fun d member => digits d (by simp [member])]

theorem valueOfDigits_zeros (zeros n : Nat) :
    valueOfDigits (List.replicate zeros '0' ++ digitsOf n) = n := by
  have digits : ∀ c ∈ List.replicate zeros '0' ++ digitsOf n, c.isDigit = true := by
    intro c member
    rcases List.mem_append.mp member with zero | digit
    · obtain ⟨-, rfl⟩ := List.mem_replicate.mp zero
      rfl
    · exact Nat.isDigit_of_mem_toDigits (by decide) (by decide) digit
  rw [valueOfDigits_eq digits, Nat.ofDigitChars_append, Nat.ofDigitChars_replicate_zero,
    Nat.mul_zero, digitsOf, Nat.ofDigitChars_ten_toDigits]

theorem digitValue?_le {c : Char} {d : Nat} (h : digitValue? c = some d) : d ≤ 9 := by
  unfold digitValue? at h
  split at h
  · rename_i digit
    cases h
    have last : c.toNat ≤ '9'.toNat := digit.2
    change c.toNat - 48 ≤ 9
    change c.toNat ≤ 57 at last
    omega
  · cases h

theorem valueOfDigits_lt (cs : List Char) : valueOfDigits cs < 10 ^ cs.length := by
  induction cs using List.reverseRecOn with
  | nil => decide
  | append_singleton cs c ih =>
    rw [valueOfDigits] at ih
    rw [valueOfDigits, List.foldl_concat, List.length_append, List.length_singleton, Nat.pow_succ]
    split
    · rename_i d digit
      have small := digitValue?_le digit
      omega
    · omega

theorem valueOfDigits_digitsOf (n : Nat) : valueOfDigits (digitsOf n) = n :=
  valueOfDigits_zeros 0 n

/-- A run of digits with this value. -/
def IsNumeral (digits : List Char) (n : Nat) : Prop :=
  digits ≠ [] ∧ (∀ c ∈ digits, c.isDigit = true) ∧ Nat.ofDigitChars 10 digits 0 = n

inductive IsWhole : List Char → Int → Prop
  | plain : IsNumeral digits n → IsWhole digits n
  | plus : IsNumeral digits n → IsWhole ('+' :: digits) n
  | minus : IsNumeral digits n → IsWhole ('-' :: digits) (-n)

theorem isDigit_eq (c : Char) : isDigit c = c.isDigit := by
  rw [Bool.eq_iff_iff, isDigit_iff, Char.isDigit_iff_toNat]
  exact Iff.rfl

theorem natOfDigits?_eq_some_iff {cs : List Char} {n : Nat} :
    natOfDigits? cs = some n ↔ IsNumeral cs n := by
  unfold natOfDigits? IsNumeral
  simp only [List.all_eq_true, isDigit_eq]
  constructor
  · intro read
    split at read
    · rename_i digits
      rw [valueOfDigits_eq digits.2] at read
      exact ⟨digits.1, digits.2, Option.some.inj read⟩
    · cases read
  · rintro ⟨nonempty, digits, rfl⟩
    rw [if_pos ⟨nonempty, digits⟩, valueOfDigits_eq digits]

theorem splitSign_of_plain {c : Char} (noMinus : c ≠ '-') (noPlus : c ≠ '+') (cs : List Char) :
    splitSign (c :: cs) = (false, c :: cs) := by
  simp [splitSign, noMinus, noPlus]

theorem isWhole_iff {cs : List Char} {z : Int} :
    IsWhole cs z ↔ ∃ n, IsNumeral (splitSign cs).2 n ∧
      z = if (splitSign cs).1 then -(n : Int) else n := by
  constructor
  · rintro (@⟨digits, n, numeral⟩ | numeral | numeral)
    · obtain ⟨c, rest, rfl⟩ := List.exists_cons_of_ne_nil numeral.1
      obtain ⟨-, noMinus, noPlus⟩ := plain_of_isDigit (numeral.2.1 c List.mem_cons_self)
      rw [splitSign_of_plain noMinus noPlus]
      exact ⟨n, numeral, rfl⟩
    · exact ⟨_, numeral, rfl⟩
    · exact ⟨_, numeral, rfl⟩
  · rintro ⟨n, numeral, rfl⟩
    unfold splitSign at numeral ⊢
    split at numeral
    · exact .minus numeral
    · exact .plus numeral
    · exact .plain numeral

theorem intWithin?_eq_some_iff {low high z : Int} {s : String} :
    intWithin? low high s = some z ↔ IsWhole s.toList z ∧ low ≤ z ∧ z ≤ high := by
  simp only [intWithin?, Option.bind_eq_bind, Option.bind_eq_some_iff, natOfDigits?_eq_some_iff,
    isWhole_iff, Option.ite_none_right_eq_some, Option.some.injEq]
  constructor
  · rintro ⟨n, numeral, bounds, rfl⟩
    exact ⟨⟨n, numeral, rfl⟩, bounds⟩
  · rintro ⟨⟨n, numeral, rfl⟩, bounds⟩
    exact ⟨n, numeral, bounds, rfl⟩

namespace Binary64

theorem decimalOf?_whole {digits : List Char} (nonempty : digits ≠ [])
    (decimal : ∀ c ∈ digits, isDigit c = true) :
    decimalOf? digits = some ⟨valueOfDigits digits, 0⟩ := by
  have run := @Text.longest_run isDigit digits [] decimal (by simp)
  rw [List.append_nil] at run
  obtain ⟨whole, rest⟩ := run
  have some : digits.isEmpty = false := by simp [nonempty]
  simp [decimalOf?, whole, rest, some]

theorem decimalOf?_point {whole fraction : List Char} (nonempty : whole ≠ [])
    (before : ∀ c ∈ whole, isDigit c = true) (behind : ∀ c ∈ fraction, isDigit c = true) :
    decimalOf? (whole ++ '.' :: fraction) =
      some ⟨valueOfDigits (whole ++ fraction), -fraction.length⟩ := by
  have front := @Text.longest_run isDigit whole ('.' :: fraction) before (by simp; decide)
  have back := @Text.longest_run isDigit fraction [] behind (by simp)
  rw [List.append_nil] at back
  have some : whole.isEmpty = false := by simp [nonempty]
  simp [decimalOf?, front, back, some]

/-- The special words of doubles are tried before the digits, and begin with a letter. -/
theorem ofText?_of_digit {s : String} {negative : Bool} {rest cs : List Char} {c : Char}
    (parts : splitSign s.toList = (negative, rest)) (first : rest = c :: cs)
    (digit : isDigit c = true) :
    ofText? s = (decimalOf? rest).map (Decimal.round negative) := by
  have word {k : Char} {ks : List Char} (letter : 'a' ≤ k) : rest.map Char.toLower ≠ k :: ks := by
    rw [first]
    exact map_toLower_ne (.inr (.inr digit)) letter
  have nan : rest.map Char.toLower ≠ "nan".toList := word (by decide)
  have inf : rest.map Char.toLower ≠ "inf".toList := word (by decide)
  have infinity : rest.map Char.toLower ≠ "infinity".toList := word (by decide)
  rw [ofText?, parts]
  dsimp only
  rw [if_neg nan, if_neg (not_or.mpr ⟨inf, infinity⟩)]

theorem count_minus_digits {digits : List Char} (decimal : ∀ c ∈ digits, isDigit c = true) :
    digits.count '-' = 0 := by
  refine List.count_eq_zero.mpr fun member => ?_
  exact absurd (decimal _ member) (by decide)

theorem decimal_of_natOfDigits? {cs : List Char} {n : Nat} (read : natOfDigits? cs = some n) :
    ∀ c ∈ cs, isDigit c = true := by
  unfold natOfDigits? at read
  split at read
  · rename_i decimal
    exact List.all_eq_true.mp decimal.2
  · cases read

theorem count_minus_exponent {cs : List Char} {e : Int} (read : exponentOf? cs = some e) :
    cs.count '-' ≤ 1 := by
  rcases parts : splitSign cs with ⟨negative, digits⟩
  rw [exponentOf?, parts] at read
  obtain ⟨n, number, -⟩ := Option.bind_eq_some_iff.mp read
  have none := count_minus_digits (decimal_of_natOfDigits? number)
  unfold splitSign at parts
  split at parts <;> cases parts
  · simp [none]
  · simp [none]
  · omega

theorem count_minus_rest {rest : List Char} {made : Int → Option Decimal} {d : Decimal}
    (read : (match rest with
      | [] => some 0 >>= made
      | c :: more => if c = 'e' ∨ c = 'E' then exponentOf? more >>= made else none >>= made) =
        some d) : rest.count '-' ≤ 1 := by
  split at read
  · simp
  · split at read
    · rename_i mark
      obtain ⟨e, exponent, -⟩ := Option.bind_eq_some_iff.mp read
      have least := count_minus_exponent exponent
      rcases mark with rfl | rfl <;> simpa using least
    · cases read

/-- The only minus sign in a number without a sign is that of its exponent. -/
theorem count_minus_le {cs : List Char} {d : Decimal} (read : decimalOf? cs = some d) :
    cs.count '-' ≤ 1 := by
  have taken (cs : List Char) : cs.count '-' = (cs.dropWhile isDigit).count '-' := by
    have none : (cs.takeWhile isDigit).count '-' = 0 :=
      count_minus_digits fun c => List.mem_takeWhile_imp
    have whole := congrArg (List.count '-') (List.takeWhile_append_dropWhile (p := isDigit) (l := cs))
    rw [List.count_append, none] at whole
    omega
  rw [taken]
  unfold decimalOf? at read
  dsimp only at read
  split at read
  · rename_i more point
    split at read
    · cases read
    · have least := count_minus_rest read
      rw [point]
      simpa [taken more] using least
  · split at read
    · cases read
    · exact count_minus_rest read

/-- Words with several hyphens, as identifiers and dates are, are no numbers. -/
theorem ofText?_of_hyphens {s : String} {c : Char} {cs : List Char} (first : s.toList = c :: cs)
    (noMinus : c ≠ '-') (noPlus : c ≠ '+') (hyphens : 1 < s.toList.count '-') :
    ofText? s = none := by
  have parts : splitSign s.toList = (false, s.toList) := by
    rw [first, splitSign_of_plain noMinus noPlus]
  have lower : '-' ∈ s.toList.map Char.toLower :=
    List.mem_map.mpr ⟨'-', List.count_pos_iff.mp (by omega), rfl⟩
  have word {special : List Char} (letters : '-' ∉ special) :
      s.toList.map Char.toLower ≠ special := fun same => letters (same ▸ lower)
  have nan : s.toList.map Char.toLower ≠ "nan".toList := word (by decide)
  have inf : s.toList.map Char.toLower ≠ "inf".toList := word (by decide)
  have infinity : s.toList.map Char.toLower ≠ "infinity".toList := word (by decide)
  have noDecimal : decimalOf? s.toList = none := by
    rw [Option.eq_none_iff_forall_ne_some]
    intro d read
    have least := count_minus_le read
    omega
  rw [ofText?, parts]
  dsimp only
  rw [if_neg nan, if_neg (not_or.mpr ⟨inf, infinity⟩), noDecimal]
  rfl

end Binary64

end ODataQuery
