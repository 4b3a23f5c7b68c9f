import ODataQuery.Proofs.Time.Written

/-! The form with whole seconds read back. It is the text of the instant without the fraction of its
second, and that is what reading it gives. -/
namespace ODataQuery.Instant

def cut (t : Instant) : Instant :=
  ⟨t.seconds, t.nanos / 1000000000 * 1000000000, by
    obtain ⟨low, high, small⟩ := t.representable
    exact ⟨low, high, by omega⟩⟩

/-- What the form with whole seconds says: the beginning of the second, where a leap second in the midst
of a minute is the second after it. -/
def wholeSecond (t : Instant) : Instant := t.cut.settled

/-- Apart from leap seconds nothing but the fraction is lost. -/
theorem wholeSecond_eq_cut {t : Instant} (plain : t.nanos < 1000000000) : t.wholeSecond = t.cut := by
  refine dif_neg fun leap => ?_
  change 1000000000 ≤ t.nanos / 1000000000 * 1000000000 ∧ _ at leap
  omega

theorem nanos_cut {t : Instant} (plain : t.nanos < 1000000000) : t.cut.nanos = 0 := by
  change t.nanos / 1000000000 * 1000000000 = 0
  omega

theorem toList_secondsText (t : Instant) : t.secondsText.toList = t.wholeText ++ ['Z'] :=
  String.toList_ofList

theorem exists_digit_secondsText {t : Instant} (four : t.PlainYear) :
    ∃ c cs, t.secondsText.toList = c :: cs ∧ c.isDigit = true := by
  obtain ⟨c, cs, digits, digit⟩ := exists_digit_padded 4 t.date.year.natAbs
  rw [toList_secondsText, wholeText, yearText_of_plain four, digits]
  exact ⟨c, _, rfl, digit⟩

theorem count_minus_secondsText (t : Instant) : 1 < t.secondsText.toList.count '-' := by
  rw [toList_secondsText, wholeText]
  simp only [List.count_append, List.count_cons_self]
  omega

theorem length_secondsText {t : Instant} (four : t.PlainYear) :
    t.secondsText.toList.length = 20 := by
  obtain ⟨firstMonth, lastMonth, firstDay, lastDay⟩ : t.date.Valid := Date.valid_ofDayNumber _
  have days := Date.daysInMonth_le t.date.year t.date.month
  have inDay := t.secondOfDay_lt
  have small := t.representable.2.2
  have two {n : Nat} (h : n < 100) : (padded 2 n).length = 2 := length_padded h (by decide)
  have digits : 0 ≤ t.date.year ∧ t.date.year ≤ 9999 := four
  have year : (padded 4 t.date.year.natAbs).length = 4 := length_padded (by omega) (by decide)
  have month : (padded 2 t.date.month).length = 2 := two (by omega)
  have day : (padded 2 t.date.day).length = 2 := two (by omega)
  have hour : (padded 2 (t.secondOfDay / 3600)).length = 2 := two (by omega)
  have minute : (padded 2 (t.secondOfDay / 60 % 60)).length = 2 := two (by omega)
  have second : (padded 2 (t.secondOfDay % 60 + t.nanos / 1000000000)).length = 2 := two (by omega)
  rw [toList_secondsText, wholeText, yearText_of_plain four]
  simp only [List.length_append, List.length_cons, List.length_nil, year, month, day, hour, minute,
    second]

/-- Without its fraction an instant is written the same in both forms. -/
theorem text_cut (t : Instant) : t.cut.text = t.secondsText := by
  have second : t.cut.nanos / 1000000000 = t.nanos / 1000000000 := Nat.mul_div_cancel _ (by decide)
  have rest : t.cut.nanos % 1000000000 = 0 := Nat.mul_mod_left ..
  have whole : t.cut.wholeText = t.wholeText := by
    rw [wholeText, second]
    rfl
  rw [text, rest, whole, fractionText, if_pos rfl, List.append_nil, secondsText]

theorem relaxed?_secondsText (t : Instant) : Time.relaxed? t.secondsText = some t.wholeSecond := by
  rw [← text_cut, relaxed?_text, wholeSecond]

theorem parse?_secondsText {t : Instant} (four : t.PlainYear) :
    Time.parse? t.secondsText = some t.wholeSecond := by
  have plain : t.cut.PlainYear := four
  rw [← text_cut, parse?_text, if_pos plain, wholeSecond]

end ODataQuery.Instant
