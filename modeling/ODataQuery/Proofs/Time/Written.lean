import ODataQuery.Proofs.Text.Parts
import ODataQuery.Proofs.Time.Reading

/-! A written instant under every form that is tried. No blanks stand around it, and it is no date in
milliseconds. Of the forms behind these the strict one takes it if the year has four digits and no
sign, and the local ones leave the Z, so that a text with any other year is not read. -/
namespace ODataQuery

namespace Time.Reader

open Instant

theorem bothDigits_padded {low high n : Nat} {left : List Char} (bounds : low ≤ n ∧ n ≤ high)
    (small : n < 100) (apart : ∀ c ∈ left.head?, isDigit c = false) :
    bothDigits low high (padded 2 n ++ left) = some (n, left) := by
  have length : (padded 2 n).length = 2 := length_padded small (by decide)
  have read : number 2 2 (padded 2 n ++ left) = some (valueOfDigits (padded 2 n), left) :=
    number_of (fun c => isDigit_of_mem_padded) (by omega) (by omega) apart
  rw [bothDigits, bind_of read, valueOfDigits_padded, if_pos bounds]
  rfl

theorem number_yearText {year : Int} (four : 0 ≤ year ∧ year ≤ 9999) {left : List Char}
    (apart : ∀ c ∈ left.head?, isDigit c = false) :
    number 4 4 (yearText year ++ left) = some (year.natAbs, left) := by
  have length : (padded 4 year.natAbs).length = 4 := length_padded (by omega) (by decide)
  have read : number 4 4 (padded 4 year.natAbs ++ left) =
      some (valueOfDigits (padded 4 year.natAbs), left) :=
    number_of (fun c => isDigit_of_mem_padded) (by omega) (by omega) apart
  rw [valueOfDigits_padded] at read
  rwa [yearText, if_pos four]

section

variable {date : Date} {hour minute second nanos : Nat}

theorem strict_written (valid : date.Valid) (four : 0 ≤ date.year ∧ date.year ≤ 9999)
    (clock : hour < 24 ∧ minute < 60 ∧ second ≤ 60) (whole : nanos < 1000000000) :
    strict (written date hour minute second nanos) =
      some (do
        guard ((0 : Int).natAbs ≤ (23 * 60 + 59) * 60)
        let t ← clock? date hour minute second nanos
        t.subOffset? 0, []) := by
  obtain ⟨firstMonth, lastMonth, firstDay, lastDay⟩ := valid
  have days := Date.daysInMonth_le date.year date.month
  have year : (date.year.natAbs : Int) = date.year := by omega
  have dash (cs : List Char) := apart_cons (c := '-') (by decide) cs
  have colon (cs : List Char) := apart_cons (c := ':') (by decide) cs
  have mark (cs : List Char) := apart_cons (c := 'T') (by decide) cs
  rw [strict, written, bind_of (number_yearText four (dash _)), bind_of char_of,
    bind_of (bothDigits_padded ⟨firstMonth, lastMonth⟩ (by omega) (dash _)), bind_of char_of,
    bind_of (bothDigits_padded ⟨firstDay, by omega⟩ (by omega) (mark _)), bind_of mark_of,
    bind_of (bothDigits_padded (by omega) (by omega) (colon _)), bind_of char_of,
    bind_of (bothDigits_padded (by omega) (by omega) (colon _)), bind_of char_of,
    bind_of (bothDigits_padded (by omega) (by omega) (apart_fractionText nanos)),
    bind_of (fraction_fractionText whole), year]
  rfl

theorem bind_of_none {r : Reader α} {next : α → Reader β} {cs : List Char} (h : r cs = none) :
    (r >>= next) cs = none := by
  simp [bind, StateT.bind, h]

theorem number_of_apart {low high : Nat} {c : Char} {cs : List Char} (apart : isDigit c = false)
    (several : 0 < low) : number low high (c :: cs) = none := by
  rw [number, List.takeWhile_cons_of_neg (by simp [apart]), List.take_nil]
  exact if_neg (by simp; omega)

theorem strict_of_sign (outside : ¬ (0 ≤ date.year ∧ date.year ≤ 9999)) :
    strict (written date hour minute second nanos) = none := by
  refine bind_of_none ?_
  rw [written, yearText, if_neg outside]
  split <;> exact number_of_apart (by decide) (by decide)

theorem looseDate_written (valid : date.Valid) {left : List Char}
    (apart : ∀ c ∈ left.head?, isDigit c = false) :
    looseDate (yearText date.year ++ '-' :: (padded 2 date.month ++ '-' :: (padded 2 date.day ++
      left))) = some (date, left) := by
  obtain ⟨firstMonth, lastMonth, firstDay, lastDay⟩ := valid
  have days := Date.daysInMonth_le date.year date.month
  have dash (cs : List Char) := apart_cons (c := '-') (by decide) cs
  rw [looseDate, bind_of (signedYear_yearText _ (dash _)), bind_of char_of,
    bind_of (twoDigits_padded ⟨firstMonth, lastMonth⟩ (by omega) (dash _)), bind_of char_of,
    bind_of (twoDigits_padded ⟨firstDay, by omega⟩ (by omega) apart)]
  rfl

theorem all_of_left {r : Reader α} {cs left : List Char} {a : α} {c : Char}
    (h : r cs = some (a, c :: left)) : all r cs = none := by
  rw [all, h]
  rfl

theorem all_of_none {r : Reader α} {cs : List Char} (h : r cs = none) : all r cs = none := by
  rw [all, h]
  rfl

theorem all_localTime_written (valid : date.Valid)
    (clock : hour < 24 ∧ minute < 60 ∧ second ≤ 60) (whole : nanos < 1000000000) :
    all (localTime (char 'T')) (written date hour minute second nanos) = none := by
  have colon (cs : List Char) := apart_cons (c := ':') (by decide) cs
  have read : localTime (char 'T') (written date hour minute second nanos) =
      some (clock? date hour minute second nanos, ['Z']) := by
    rw [localTime, written, bind_of (looseDate_written valid (apart_cons (by decide) _)),
      bind_of char_of, bind_of (twoDigits_padded (by omega) (by omega) (colon _)), bind_of char_of,
      bind_of (twoDigits_padded (by omega) (by omega) (colon _)), bind_of char_of,
      bind_of (twoDigits_padded (by omega) (by omega) (apart_fractionText nanos)),
      bind_of (fraction_fractionText whole)]
    rfl
  exact all_of_left read

/-- The form with blanks finds the letter T where the hours are to begin. -/
theorem all_spacedTime_written (valid : date.Valid) :
    all (localTime blanks) (written date hour minute second nanos) = none := by
  refine all_of_none ?_
  rw [localTime, written, bind_of (looseDate_written valid (apart_cons (by decide) _)),
    bind_of (blanks_of (by decide))]
  refine bind_of_none ?_
  rw [twoDigits, bind_of (blanks_of (by decide))]
  exact bind_of_none (number_of_apart (by decide) (by decide))

theorem all_localMinute_written (valid : date.Valid) (clock : hour < 24 ∧ minute < 60) :
    all localMinute (written date hour minute second nanos) = none := by
  have colon (cs : List Char) := apart_cons (c := ':') (by decide) cs
  have read : localMinute (written date hour minute second nanos) =
      some (clock? date hour minute 0 0, ':' :: (padded 2 second ++ (fractionText nanos ++ ['Z']))) := by
    rw [localMinute, written, bind_of (looseDate_written valid (apart_cons (by decide) _)),
      bind_of char_of, bind_of (twoDigits_padded (by omega) (by omega) (colon _)), bind_of char_of,
      bind_of (twoDigits_padded (by omega) (by omega) (colon _))]
    rfl
  exact all_of_left read

theorem all_localDate_written (valid : date.Valid) :
    all localDate (written date hour minute second nanos) = none := by
  have read : localDate (written date hour minute second nanos) = some (clock? date 0 0 0 0,
      'T' :: (padded 2 hour ++ ':' :: (padded 2 minute ++ ':' :: (padded 2 second ++
        (fractionText nanos ++ ['Z']))))) := by
    rw [localDate, written, bind_of (looseDate_written valid (apart_cons (by decide) _))]
    rfl
  exact all_of_left read

end

end Time.Reader

namespace Instant

theorem subOffset?_zero (t : Instant) : t.subOffset? 0 = some t := by
  rw [subOffset?, Int.sub_zero, ofSeconds?, dif_pos t.representable]

/-- The year is one that is written with four digits and without a sign. -/
def PlainYear (t : Instant) : Prop := 0 ≤ t.date.year ∧ t.date.year ≤ 9999

instance (t : Instant) : Decidable t.PlainYear := inferInstanceAs (Decidable (_ ∧ _))

theorem yearText_of_plain {t : Instant} (plain : t.PlainYear) :
    yearText t.date.year = padded 4 t.date.year.natAbs := if_pos plain

theorem exists_first_text (t : Instant) :
    ∃ c cs, t.text.toList = c :: cs ∧ Text.isBlank c = false ∧ c ≠ '/' := by
  rw [toList_text, Time.Reader.written, yearText]
  split
  · obtain ⟨c, cs, digits, digit⟩ := exists_digit_padded 4 t.date.year.natAbs
    refine ⟨c, _, by rw [digits]; rfl, (plain_of_isDigit digit).1, ?_⟩
    rintro rfl
    exact absurd digit (by decide)
  · split
    · exact ⟨'-', _, rfl, by decide, by decide⟩
    · exact ⟨'+', _, rfl, by decide, by decide⟩

theorem trimChars_text (t : Instant) : Text.trimChars t.text.toList = t.text.toList := by
  obtain ⟨c, cs, text, notBlank, -⟩ := t.exists_first_text
  have first : t.text.toList.dropWhile Text.isBlank = t.text.toList := by
    rw [text]
    exact List.dropWhile_cons_of_neg (by simp [notBlank])
  have last : Text.isBlank 'Z' = false := by decide
  have ends : t.text.toList = t.wholeText ++ fractionText (t.nanos % 1000000000) ++ ['Z'] :=
    String.toList_ofList
  rw [Text.trimChars, first, ends, Text.dropEndWhile_append_singleton, last]
  rfl

theorem millis?_text (t : Instant) : Time.millis? t.text.toList = none := by
  obtain ⟨c, cs, text, -, slash⟩ := t.exists_first_text
  have opening : "/Date(".toList.isPrefixOf t.text.toList = false := by
    rw [text]
    exact Bool.and_eq_false_imp.mpr fun same => absurd (beq_iff_eq.mp same).symm slash
  have body : Time.millisBody? t.text.toList = none := by
    refine if_neg fun both => ?_
    rw [opening] at both
    cases both.1
  rw [Time.millis?, body]
  rfl

/-- The strict form reads back what the text of an instant says, and rejects a sign. -/
theorem all_strict_text (t : Instant) :
    (Time.Reader.all Time.strict t.text.toList).join =
      if t.PlainYear then some t.settled else none := by
  have inDay := t.secondOfDay_lt
  have small := t.representable.2.2
  have valid : t.date.Valid := Date.valid_ofDayNumber _
  rw [toList_text]
  split
  · rename_i four
    have clock := t.clock?_date
    -- any instant would do from here on, and this one is not to be computed
    generalize t.settled = told at clock ⊢
    have near : (guard ((0 : Int).natAbs ≤ (23 * 60 + 59) * 60) : Option Unit) = some () :=
      if_pos (Nat.zero_le _)
    rw [Time.Reader.all, Time.Reader.strict_written valid four (by omega) (by omega), clock, near]
    rw [Option.bind_eq_bind, Option.bind_eq_bind, Option.bind_some, Option.bind_some,
      Option.bind_eq_bind, Option.bind_some, told.subOffset?_zero]
    rfl
  · rename_i outside
    rw [Time.Reader.all_of_none (Time.Reader.strict_of_sign outside)]
    rfl

/-- A written instant is read back if its year is plain, and otherwise by none of the forms. -/
theorem parse?_text (t : Instant) :
    Time.parse? t.text = if t.PlainYear then some t.settled else none := by
  have inDay := t.secondOfDay_lt
  have small := t.representable.2.2
  have valid : t.date.Valid := Date.valid_ofDayNumber _
  have strict := t.all_strict_text
  rw [Time.parse?, trimChars_text, millis?_text]
  simp only [List.findSome?_cons, List.findSome?_nil]
  rw [strict, toList_text, Time.Reader.all_localTime_written valid (by omega) (by omega),
    Time.Reader.all_spacedTime_written valid, Time.Reader.all_localMinute_written valid (by omega),
    Time.Reader.all_localDate_written valid]
  generalize (if t.PlainYear then some t.settled else none) = told
  cases told <;> rfl

end Instant

end ODataQuery
