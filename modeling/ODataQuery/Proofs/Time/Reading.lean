import ODataQuery.Proofs.Number.Digits
import ODataQuery.Proofs.Time.Calendar
import ODataQuery.Time.Format
import ODataQuery.Time.Reader

/-! Reading what was written. The text of an instant is read back step by step, each reader taking
its part off the front, and gives the instant; only a leap second in the midst of a minute, which no
text can tell from the second after it, becomes that second. -/
namespace ODataQuery

namespace Instant

theorem isDigit_of_mem_padded {width n : Nat} {c : Char} (h : c ∈ padded width n) :
    c.isDigit = true := by
  rcases List.mem_append.mp h with zero | digit
  · obtain ⟨-, rfl⟩ := List.mem_replicate.mp zero
    rfl
  · exact Nat.isDigit_of_mem_toDigits (by decide) (by decide) digit

theorem valueOfDigits_padded (width n : Nat) : valueOfDigits (padded width n) = n := by
  exact valueOfDigits_zeros _ n

theorem length_padded {width n : Nat} (h : n < 10 ^ width) (positive : 0 < width) :
    (padded width n).length = width := by
  have short : (digitsOf n).length ≤ width :=
    (Nat.length_toDigits_le_iff (by decide) positive).mpr h
  simp only [padded, List.length_append, List.length_replicate]
  omega

theorem exists_digit_padded (width n : Nat) :
    ∃ c cs, padded width n = c :: cs ∧ c.isDigit = true := by
  obtain ⟨c, cs, digits⟩ : ∃ c cs, padded width n = c :: cs :=
    List.exists_cons_of_ne_nil (by simp [padded, digitsOf, Nat.toDigits_ne_nil])
  exact ⟨c, cs, digits, isDigit_of_mem_padded (by rw [digits]; exact List.mem_cons_self)⟩

end Instant

namespace Time.Reader

open Instant

/-- Readers are taken one by one: what the first leaves is for the next. -/
theorem bind_of {r : Reader α} {next : α → Reader β} {cs left : List Char} {a : α}
    (h : r cs = some (a, left)) : (r >>= next) cs = next a left := by
  simp [bind, StateT.bind, h]

theorem get_of {next : List Char → Reader β} {cs : List Char} :
    ((get : Reader (List Char)) >>= next) cs = next cs cs := rfl

theorem run_of {ds left : List Char} (digits : ∀ c ∈ ds, c.isDigit = true)
    (apart : ∀ c ∈ left.head?, isDigit c = false) :
    (ds ++ left).takeWhile isDigit = ds ∧ (ds ++ left).dropWhile isDigit = left :=
  Text.longest_run (fun c member => isDigit_of_isDigit (digits c member)) apart

theorem number_of {low high : Nat} {ds left : List Char} (digits : ∀ c ∈ ds, c.isDigit = true)
    (long : low ≤ ds.length) (short : ds.length ≤ high)
    (apart : ∀ c ∈ left.head?, isDigit c = false) :
    number low high (ds ++ left) = some (valueOfDigits ds, left) := by
  rw [number, (run_of digits apart).1, List.take_of_length_le short, if_pos long, List.drop_left]

theorem blanks_of {c : Char} {cs : List Char} (h : Text.isBlank c = false) :
    blanks (c :: cs) = some ((), c :: cs) := by
  simp [blanks, h]

theorem blanks_padded (width n : Nat) (left : List Char) :
    blanks (padded width n ++ left) = some ((), padded width n ++ left) := by
  obtain ⟨c, cs, digits, digit⟩ := exists_digit_padded width n
  rw [digits]
  exact blanks_of (plain_of_isDigit digit).1

theorem char_of {c : Char} {cs : List Char} : char c (c :: cs) = some ((), cs) := by
  rw [char, if_pos rfl]

theorem mark_of {cs : List Char} : dateTimeMark ('T' :: cs) = some ((), cs) := rfl

theorem twoDigits_padded {low high n : Nat} {left : List Char} (bounds : low ≤ n ∧ n ≤ high)
    (small : n < 100) (apart : ∀ c ∈ left.head?, isDigit c = false) :
    twoDigits low high (padded 2 n ++ left) = some (n, left) := by
  have length : (padded 2 n).length = 2 := length_padded small (by decide)
  have read : number 1 2 (padded 2 n ++ left) = some (valueOfDigits (padded 2 n), left) :=
    number_of (fun c => isDigit_of_mem_padded) (by omega) (by omega) apart
  rw [twoDigits, bind_of (blanks_padded 2 n left), bind_of read, valueOfDigits_padded, if_pos bounds]
  rfl

theorem blanks_yearText (year : Int) (left : List Char) :
    blanks (yearText year ++ left) = some ((), yearText year ++ left) := by
  unfold yearText
  split
  · exact blanks_padded 4 year.natAbs left
  · split <;> exact blanks_of (by decide)

theorem signedYear_of_isDigit {c : Char} (digit : c.isDigit = true) (cs : List Char) :
    signedYear (c :: cs) = (number 1 4 >>= fun n => pure (n : Int)) (c :: cs) := by
  obtain ⟨blank, noMinus, noPlus⟩ := plain_of_isDigit digit
  rw [signedYear, bind_of (blanks_of blank), get_of]
  refine congrFun ?_ (c :: cs)
  split
  · rename_i sign
    exact absurd (List.cons.inj sign).1 noMinus
  · rename_i sign
    exact absurd (List.cons.inj sign).1 noPlus
  · rfl

theorem signedYear_of_minus (cs : List Char) :
    signedYear ('-' :: cs) = (number 1 cs.length >>= fun n => pure (-(n : Int))) cs := by
  rw [signedYear, bind_of (blanks_of (by decide)), get_of]
  rfl

theorem signedYear_of_plus (cs : List Char) :
    signedYear ('+' :: cs) = (number 1 cs.length >>= fun n => pure (n : Int)) cs := by
  rw [signedYear, bind_of (blanks_of (by decide)), get_of]
  rfl

theorem signedYear_yearText (year : Int) {left : List Char}
    (apart : ∀ c ∈ left.head?, isDigit c = false) :
    signedYear (yearText year ++ left) = some (year, left) := by
  obtain ⟨d, ds, cons, digit⟩ := exists_digit_padded 4 year.natAbs
  have read (high : Nat) (short : (padded 4 year.natAbs).length ≤ high) :
      number 1 high (padded 4 year.natAbs ++ left) = some (year.natAbs, left) := by
    have several : 1 ≤ (padded 4 year.natAbs).length := by simp [cons]
    have digits := number_of (fun c => isDigit_of_mem_padded) several short apart
    rwa [valueOfDigits_padded] at digits
  have long := read (padded 4 year.natAbs ++ left).length (by simp)
  unfold yearText
  split
  · have length : (padded 4 year.natAbs).length = 4 := length_padded (by omega) (by decide)
    have short := read 4 (by omega)
    rw [cons, List.cons_append] at short ⊢
    rw [signedYear_of_isDigit digit, bind_of short]
    have same : (year.natAbs : Int) = year := by omega
    rw [same]
    rfl
  · by_cases negative : year < 0
    · rw [if_pos negative, List.cons_append, signedYear_of_minus, bind_of long]
      have same : -(year.natAbs : Int) = year := by omega
      rw [same]
      rfl
    · rw [if_neg negative, List.cons_append, signedYear_of_plus, bind_of long]
      have same : (year.natAbs : Int) = year := by omega
      rw [same]
      rfl

theorem apart_cons {c : Char} (h : isDigit c = false) (cs : List Char) :
    ∀ d ∈ (c :: cs).head?, isDigit d = false := by
  rintro d ⟨⟩
  exact h

theorem fraction_padded {width n : Nat} (small : n < 10 ^ width) (inside : 0 < width ∧ width ≤ 9) :
    fraction ('.' :: padded width n ++ ['Z']) = some (n * 10 ^ (9 - width), ['Z']) := by
  have length := length_padded small inside.1
  have zone := apart_cons (c := 'Z') (by decide) []
  obtain ⟨run, rest⟩ := run_of (fun d => isDigit_of_mem_padded) zone
  have several : (padded width n).isEmpty = false := by
    rw [← Bool.not_eq_true, List.isEmpty_iff_length_eq_zero]
    omega
  rw [List.cons_append, fraction, run, rest, List.take_of_length_le (by omega), several,
    valueOfDigits_padded, length]
  rfl

theorem fraction_fractionText {nanos : Nat} (small : nanos < 1000000000) :
    fraction (fractionText nanos ++ ['Z']) = some (nanos, ['Z']) := by
  unfold fractionText
  split
  · rename_i whole
    rw [whole]
    rfl
  split
  · rw [fraction_padded (by omega) (by decide)]
    simp
    omega
  split
  · rw [fraction_padded (by omega) (by decide)]
    simp
    omega
  · rw [fraction_padded small (by decide)]
    simp

theorem apart_fractionText (nanos : Nat) :
    ∀ c ∈ (fractionText nanos ++ ['Z']).head?, isDigit c = false := by
  unfold fractionText
  split
  · exact apart_cons (by decide) _
  split
  · exact apart_cons (by decide) _
  split <;> exact apart_cons (by decide) _

/-- A date, the letter T, a time of day, a fraction and Z, as an instant is written. -/
def written (date : Date) (hour minute second nanos : Nat) : List Char :=
  yearText date.year ++ '-' :: (padded 2 date.month ++ '-' :: (padded 2 date.day ++
    'T' :: (padded 2 hour ++ ':' :: (padded 2 minute ++ ':' :: (padded 2 second ++
      (fractionText nanos ++ ['Z']))))))

/-- The parts of a written instant are read in turn; no blank stands between them. -/
theorem relaxed_written {date : Date} {hour minute second nanos : Nat} (valid : date.Valid)
    (clock : hour < 24 ∧ minute < 60 ∧ second ≤ 60) (whole : nanos < 1000000000) :
    relaxed (written date hour minute second nanos) =
      some (do
        guard ((0 : Int).natAbs < 86400)
        let t ← clock? date hour minute second nanos
        t.subOffset? 0, []) := by
  obtain ⟨firstMonth, lastMonth, firstDay, lastDay⟩ := valid
  have days := Date.daysInMonth_le date.year date.month
  have dash (cs : List Char) := apart_cons (c := '-') (by decide) cs
  have colon (cs : List Char) := apart_cons (c := ':') (by decide) cs
  have mark (cs : List Char) := apart_cons (c := 'T') (by decide) cs
  rw [relaxed, written, bind_of (blanks_yearText _ _), bind_of (signedYear_yearText _ (dash _)),
    bind_of (blanks_of (by decide)), bind_of char_of,
    bind_of (twoDigits_padded ⟨firstMonth, lastMonth⟩ (by omega) (dash _)),
    bind_of (blanks_of (by decide)), bind_of char_of,
    bind_of (twoDigits_padded ⟨firstDay, by omega⟩ (by omega) (mark _)), bind_of mark_of,
    bind_of (twoDigits_padded (by omega) (by omega) (colon _)),
    bind_of (blanks_of (by decide)), bind_of char_of,
    bind_of (twoDigits_padded (by omega) (by omega) (colon _)),
    bind_of (blanks_of (by decide)), bind_of char_of,
    bind_of (twoDigits_padded (by omega) (by omega) (apart_fractionText nanos)),
    bind_of (fraction_fractionText whole)]
  rfl

end Time.Reader

namespace Instant

/-- What the text of an instant says. A leap second is told from the second after it only at the end
of a minute. -/
def settled (t : Instant) : Instant :=
  if h : 1000000000 ≤ t.nanos ∧ t.seconds % 60 ≠ 59 then
    ⟨t.seconds + 1, t.nanos - 1000000000, by
      obtain ⟨low, high, small⟩ := t.representable
      have whole : lastSecond % 60 = 59 := by decide
      exact ⟨by omega, by omega, by omega⟩⟩
  else t

theorem secondOfDay_lt (t : Instant) : t.secondOfDay < 86400 := by
  unfold secondOfDay
  omega

theorem ofDate?_date (t : Instant) : ofDate? t.date t.secondOfDay t.nanos = some t := by
  have day : t.date.dayNumber = t.seconds / 86400 := Date.dayNumber_ofDayNumber _
  have seconds : t.date.dayNumber * 86400 + t.secondOfDay = t.seconds := by
    rw [day, secondOfDay]
    omega
  rw [ofDate?, if_pos ⟨Date.valid_ofDayNumber _, t.secondOfDay_lt⟩, seconds, ofSeconds?,
    dif_pos t.representable]

/-- The parts of a leap second in the midst of a minute, as they are read back. -/
theorem settled_of_late {t : Instant} (leap : 1000000000 ≤ t.nanos) (late : t.seconds % 60 ≠ 59) :
    t.settled.date = t.date ∧ t.settled.secondOfDay = t.secondOfDay + 1 ∧
      t.settled.nanos = t.nanos - 1000000000 := by
  have same : (t.seconds + 1) / 86400 = t.seconds / 86400 := by omega
  rw [settled, dif_pos ⟨leap, late⟩]
  refine ⟨?_, ?_, rfl⟩
  · rw [date, same, date]
  · simp only [secondOfDay]
    omega

theorem clock?_date (t : Instant) :
    let time := t.secondOfDay
    Time.clock? t.date (time / 3600) (time / 60 % 60) (time % 60 + t.nanos / 1000000000)
      (t.nanos % 1000000000) = some t.settled := by
  intro time
  have small := t.representable.2.2
  have minute : (time % 60 : Nat) = t.seconds % 60 := by
    simp only [time, secondOfDay]
    omega
  rcases Nat.lt_or_ge t.nanos 1000000000 with plain | leap
  · have kept : t.settled = t := dif_neg fun h => by omega
    have second : ¬ time % 60 + t.nanos / 1000000000 = 60 := by omega
    have whole : time / 3600 * 3600 + time / 60 % 60 * 60 + (time % 60 + t.nanos / 1000000000) =
        time := by omega
    rw [Time.clock?, if_neg second, whole, Nat.mod_eq_of_lt plain, ofDate?_date, kept]
  by_cases late : t.seconds % 60 = 59
  · have kept : t.settled = t := dif_neg fun h => h.2 late
    have second : time % 60 + t.nanos / 1000000000 = 60 := by omega
    have whole : time / 3600 * 3600 + time / 60 % 60 * 60 + 59 = time := by omega
    have nanos : 1000000000 + t.nanos % 1000000000 = t.nanos := by omega
    rw [Time.clock?, if_pos second, whole, nanos, ofDate?_date, kept]
  · obtain ⟨date, secondOfDay, nanos⟩ := settled_of_late leap late
    have second : ¬ time % 60 + t.nanos / 1000000000 = 60 := by omega
    have whole : time / 3600 * 3600 + time / 60 % 60 * 60 + (time % 60 + t.nanos / 1000000000) =
        t.settled.secondOfDay := by omega
    have rest : t.nanos % 1000000000 = t.settled.nanos := by omega
    rw [Time.clock?, if_neg second, whole, rest, ← date, ofDate?_date]

theorem toList_text (t : Instant) :
    t.text.toList = Time.Reader.written t.date (t.secondOfDay / 3600) (t.secondOfDay / 60 % 60)
      (t.secondOfDay % 60 + t.nanos / 1000000000) (t.nanos % 1000000000) := by
  have text : t.text.toList = _ := String.toList_ofList
  simpa only [wholeText, Time.Reader.written, List.append_assoc, List.cons_append] using text

theorem relaxed?_text (t : Instant) : Time.relaxed? t.text = some t.settled := by
  have inDay := t.secondOfDay_lt
  have small := t.representable.2.2
  have valid : t.date.Valid := Date.valid_ofDayNumber _
  rw [Time.relaxed?, Time.Reader.all, toList_text,
    Time.Reader.relaxed_written valid (by omega) (by omega), t.clock?_date]
  simp [subOffset?, ofSeconds?, t.settled.representable]

/-- Nothing is lost of the second that an instant is written with. -/
theorem secondsText_settled (t : Instant) : t.settled.secondsText = t.secondsText := by
  by_cases late : 1000000000 ≤ t.nanos ∧ t.seconds % 60 ≠ 59
  · obtain ⟨date, secondOfDay, nanos⟩ := settled_of_late late.1 late.2
    have small := t.representable.2.2
    have minute : (t.secondOfDay % 60 : Nat) = t.seconds % 60 := by
      simp only [Instant.secondOfDay]
      omega
    have second : (t.secondOfDay + 1) % 60 + (t.nanos - 1000000000) / 1000000000 =
        t.secondOfDay % 60 + t.nanos / 1000000000 := by omega
    have hour : (t.secondOfDay + 1) / 3600 = t.secondOfDay / 3600 := by omega
    have minutes : (t.secondOfDay + 1) / 60 = t.secondOfDay / 60 := by omega
    simp only [secondsText, wholeText, date, secondOfDay, nanos, second, hour, minutes]
  · rw [settled, dif_neg late]

end Instant
end ODataQuery
