import ODataQuery.Time.Stored
import ODataQuery.Proofs.Time.Written

/-! Timestamps that were read, written and read again. In whatever form it came, a leap second that is
read stands at the end of a minute, so that its text tells it from the second after it. What is read
is therefore read again from its text just when its year is plain; offsets and milliseconds also lead
to other years, and those have a text that is not read. -/
namespace ODataQuery

namespace Time.Reader

/-- Whatever the reader makes of the front of a text, it is so. -/
def Gives (P : α → Prop) (r : Reader α) : Prop :=
  ∀ cs a left, r cs = some (a, left) → P a

variable {P : α → Prop} {Q : β → Prop}

theorem gives_any (r : Reader α) : r.Gives fun _ => True := fun _ _ _ _ => trivial

theorem gives_pure {a : α} (h : P a) : Gives P (pure a : Reader α) := by
  intro cs b left same
  cases same
  exact h

theorem gives_failure : Gives P (failure : Reader α) := by
  intro cs a left same
  cases same

/-- What the first reader gives is known when the second one goes on. -/
theorem Gives.bind {r : Reader α} {next : α → Reader β} (first : r.Gives P)
    (second : ∀ a, P a → (next a).Gives Q) : (r >>= next).Gives Q := by
  intro cs b left read
  obtain ⟨⟨a, middle⟩, front, back⟩ := Option.bind_eq_some_iff.mp read
  exact second a (first cs a middle front) middle b left back

theorem Gives.of_all {r : Reader α} (h : r.Gives P) {cs : List Char} {a : α}
    (read : all r cs = some a) : P a := by
  obtain ⟨⟨b, left⟩, front, back⟩ := Option.bind_eq_some_iff.mp read
  dsimp only at back
  split at back
  · cases back
    exact h cs a left front
  · cases back

theorem fraction_gives : fraction.Gives (· < 1000000000) := by
  intro cs n left read
  unfold fraction at read
  split at read
  · rename_i rest
    dsimp only at read
    split at read
    · cases read
    cases read
    generalize taken : (rest.takeWhile isDigit).take 9 = digits
    have few : digits.length ≤ 9 := by
      rw [← taken]
      exact List.length_take_le ..
    calc valueOfDigits digits * Nat.pow 10 (9 - digits.length)
        < 10 ^ digits.length * Nat.pow 10 (9 - digits.length) :=
          Nat.mul_lt_mul_of_pos_right (valueOfDigits_lt digits) (Nat.pow_pos (by decide))
      _ = 10 ^ (digits.length + (9 - digits.length)) := (Nat.pow_add ..).symm
      _ = 10 ^ 9 := by rw [Nat.add_sub_cancel' few]
  · cases read
    decide

theorem offset_gives (separator : Reader Unit) : (offset separator).Gives (· % 60 = 0) := by
  refine (gives_any _).bind fun cs _ => ?_
  cases cs with
  | nil => exact gives_failure
  | cons c rest =>
    refine (gives_any _).bind fun _ _ => ?_
    split
    · exact gives_pure rfl
    split
    · refine (gives_any _).bind fun hours _ => (gives_any _).bind fun _ _ =>
        (gives_any _).bind fun minutes _ => gives_pure ?_
      split <;> omega
    · exact gives_failure

end Time.Reader

namespace Instant

/-- Every instant but a leap second in the midst of a minute is the one its text tells of. -/
theorem settled_eq_self_iff {t : Instant} :
    t.settled = t ↔ (1000000000 ≤ t.nanos → t.seconds % 60 = 59) := by
  unfold settled
  split
  · rename_i late
    refine iff_of_false (fun same => ?_) fun last => late.2 (last late.1)
    have seconds : t.seconds + 1 = t.seconds := congrArg Instant.seconds same
    omega
  · rename_i early
    exact iff_of_true rfl fun leap => by omega

theorem of_ofSeconds? {second : Int} {nanos : Nat} {t : Instant}
    (made : ofSeconds? second nanos = some t) : t.seconds = second ∧ t.nanos = nanos := by
  unfold ofSeconds? at made
  split at made
  · cases made
    exact ⟨rfl, rfl⟩
  · cases made

theorem of_ofDate? {date : Date} {secondOfDay nanos : Nat} {t : Instant}
    (made : ofDate? date secondOfDay nanos = some t) :
    t.seconds = date.dayNumber * 86400 + secondOfDay ∧ t.nanos = nanos := by
  unfold ofDate? at made
  split at made
  · exact of_ofSeconds? made
  · cases made

theorem settled_ofMillis? {millis : Int} {t : Instant} (made : ofMillis? millis = some t) :
    t.settled = t := by
  obtain ⟨-, nanos⟩ := of_ofSeconds? made
  exact settled_eq_self_iff.mpr fun leap => by omega

theorem settled_subOffset? {t u : Instant} {offset : Int} (settled : t.settled = t)
    (minutes : offset % 60 = 0) (made : t.subOffset? offset = some u) : u.settled = u := by
  obtain ⟨seconds, nanos⟩ := of_ofSeconds? made
  have last := settled_eq_self_iff.mp settled
  exact settled_eq_self_iff.mpr fun leap => by omega

end Instant

namespace Time

open Reader

theorem settled_clock? {date : Date} {hour minute second nanos : Nat} {t : Instant}
    (whole : nanos < 1000000000) (read : clock? date hour minute second nanos = some t) :
    t.settled = t := by
  refine Instant.settled_eq_self_iff.mpr fun leap => ?_
  unfold clock? at read
  split at read
  · obtain ⟨seconds, -⟩ := Instant.of_ofDate? read
    omega
  · obtain ⟨-, nanos⟩ := Instant.of_ofDate? read
    omega

/-- The instant that a form makes of a text, if any, is the one its own text tells of. -/
def Settled (read : Option Instant) : Prop := ∀ t, read = some t → t.settled = t

theorem strict_settled : strict.Gives Settled := by
  refine (gives_any _).bind fun year _ => (gives_any _).bind fun _ _ =>
    (gives_any _).bind fun month _ => (gives_any _).bind fun _ _ =>
    (gives_any _).bind fun day _ => (gives_any _).bind fun _ _ =>
    (gives_any _).bind fun hour _ => (gives_any _).bind fun _ _ =>
    (gives_any _).bind fun minute _ => (gives_any _).bind fun _ _ =>
    (gives_any _).bind fun second _ => fraction_gives.bind fun nanos whole =>
    (offset_gives _).bind fun offset minutes => gives_pure ?_
  intro u read
  obtain ⟨-, -, read⟩ := Option.bind_eq_some_iff.mp read
  obtain ⟨t, clock, moved⟩ := Option.bind_eq_some_iff.mp read
  exact Instant.settled_subOffset? (settled_clock? whole clock) minutes moved

theorem localTime_settled (mark : Reader Unit) : (localTime mark).Gives Settled := by
  refine (gives_any _).bind fun date _ => (gives_any _).bind fun _ _ =>
    (gives_any _).bind fun hour _ => (gives_any _).bind fun _ _ =>
    (gives_any _).bind fun minute _ => (gives_any _).bind fun _ _ =>
    (gives_any _).bind fun second _ => fraction_gives.bind fun nanos whole => gives_pure ?_
  exact fun t read => settled_clock? whole read

theorem localMinute_settled : localMinute.Gives Settled := by
  refine (gives_any _).bind fun date _ => (gives_any _).bind fun _ _ =>
    (gives_any _).bind fun hour _ => (gives_any _).bind fun _ _ =>
    (gives_any _).bind fun minute _ => gives_pure ?_
  exact fun t read => settled_clock? (by decide) read

theorem localDate_settled : localDate.Gives Settled :=
  (gives_any _).bind fun _ _ => gives_pure fun _ read => settled_clock? (by decide) read

/-- What is read in any of the forms is told by its text. -/
theorem settled_parse? {s : String} {t : Instant} (read : parse? s = some t) : t.settled = t := by
  unfold parse? at read
  dsimp only at read
  split at read
  · exact Instant.settled_ofMillis? read
  obtain ⟨form, member, found⟩ := List.exists_of_findSome?_eq_some read
  have forms : form.Gives Settled := by
    simp only [List.mem_cons, List.not_mem_nil, or_false] at member
    rcases member with rfl | rfl | rfl | rfl | rfl
    · exact strict_settled
    · exact localTime_settled _
    · exact localTime_settled _
    · exact localMinute_settled
    · exact localDate_settled
  exact forms.of_all (Option.join_eq_some_iff.mp found) t rfl

theorem ofJson_text (t : Instant) :
    ofJson t.toJson = if t.PlainYear then .ok t.settled else .error (.unrecognized t.text) := by
  rw [Instant.toJson, ofJson, Instant.parse?_text]
  by_cases plain : t.PlainYear
  · rw [if_pos plain, if_pos plain]
  · rw [if_neg plain, if_neg plain]

/-- A written instant is no blank text, and there is nothing to trim. -/
theorem ofJsonOrNone_text (t : Instant) : ofJsonOrNone t.toJson = (ofJson t.toJson).map some := by
  obtain ⟨c, cs, text, notBlank, -⟩ := t.exists_first_text
  have some : Text.isBlankText t.text = false := by
    rw [Text.isBlankText, text, List.all_cons, notBlank, Bool.false_and]
  have trimmed : Text.trim t.text = t.text := by
    rw [Text.trim, t.trimChars_text, String.ofList_toList]
  rw [Instant.toJson, ofJsonOrNone, some, if_neg Bool.false_ne_true, trimmed]

/-- A timestamp that was read can be written and is read again as it was just when its year in
universal time is plain; any other year makes its text one that no form reads, also in stored values. -/
theorem parse?_again {s : String} {t : Instant} (read : parse? s = some t) :
    (t.PlainYear → parse? t.text = some t ∧ ofJson t.toJson = .ok t ∧
      ofJsonOrNone t.toJson = .ok (some t)) ∧
    (¬ t.PlainYear → parse? t.text = none ∧ ofJson t.toJson = .error (.unrecognized t.text) ∧
      ofJsonOrNone t.toJson = .error (.unrecognized t.text)) := by
  have settled := settled_parse? read
  constructor
  · intro plain
    refine ⟨?_, ?_, ?_⟩
    · rw [t.parse?_text, if_pos plain, settled]
    · rw [ofJson_text, if_pos plain, settled]
    · rw [ofJsonOrNone_text, ofJson_text, if_pos plain, settled]
      rfl
  · intro outside
    refine ⟨?_, ?_, ?_⟩
    · rw [t.parse?_text, if_neg outside]
    · rw [ofJson_text, if_neg outside]
    · rw [ofJsonOrNone_text, ofJson_text, if_neg outside]
      rfl

/-- The last instant of the plain years, a leap second. -/
theorem parse?_again_leap :
    parse? "9999-12-31 23:59:60.25" = some ⟨253402300799, 1250000000, by decide⟩ ∧
      parse? (Instant.mk 253402300799 1250000000 (by decide)).text =
        some ⟨253402300799, 1250000000, by decide⟩ := by
  have read : parse? "9999-12-31 23:59:60.25" =
      some ⟨253402300799, 1250000000, by decide⟩ := by decide
  exact ⟨read, ((parse?_again read).1 (by decide)).1⟩

/-- The second after it is read from milliseconds, and its text is not read. -/
theorem parse?_year_of_five_digits :
    parse? "/Date(253402300800000)/" = some ⟨253402300800, 0, by decide⟩ ∧
      (Instant.mk 253402300800 0 (by decide)).text = "+10000-01-01T00:00:00Z" ∧
      parse? "+10000-01-01T00:00:00Z" = none := by
  decide

end Time

end ODataQuery
