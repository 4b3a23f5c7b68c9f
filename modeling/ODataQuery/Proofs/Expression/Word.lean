import ODataQuery.Expression.Word
import ODataQuery.Proofs.Guid
import ODataQuery.Proofs.Number.Roundtrip
import ODataQuery.Proofs.Time.Seconds

/-! What bare words are read as. The readings are tried in a fixed order, and what was written for one of
them is kept from the earlier ones by how it begins, how long it is and how many hyphens it has. -/
namespace ODataQuery.Expression

/-- None of the words that stand for a value by themselves. -/
def NoKeyword (word : String) : Prop :=
  ∀ keyword ∈ ["true", "false", "null"], Text.equalsIgnoringCase word keyword = false

theorem noKeyword_of_first {word : String} {c : Char} {cs : List Char} (first : word.toList = c :: cs)
    (plain : c = '-' ∨ c = '+' ∨ isDigit c = true) : NoKeyword word := by
  have other {keyword : String} {k : Char} {ks : List Char}
      (lower : keyword.toList.map Char.toLower = k :: ks) (letter : 'a' ≤ k) :
      Text.equalsIgnoringCase word keyword = false := by
    rw [Text.equalsIgnoringCase, lower, first]
    exact beq_eq_false_iff_ne.mpr (map_toLower_ne plain letter)
  simp only [NoKeyword, List.forall_mem_cons]
  exact ⟨other rfl (by decide), other rfl (by decide), other rfl (by decide), by simp⟩

theorem noKeyword_of_length {word : String} (long : 5 < word.toList.length) : NoKeyword word := by
  have short : ∀ keyword ∈ ["true", "false", "null"], keyword.toList.length ≤ 5 := by decide
  intro keyword member
  refine beq_eq_false_iff_ne.mpr fun same => ?_
  have lengths := congrArg List.length same
  rw [List.length_map, List.length_map] at lengths
  have small := short keyword member
  omega

theorem literalOfWord_of_noKeyword {word : String} (h : NoKeyword word) :
    literalOfWord word =
      match numberOfWord? word with
      | some x => .number x
      | none =>
        match guidOfWord? word with
        | some g => .guid g
        | none =>
          match Time.parse? word with
          | some t => .instant t
          | none => .text word := by
  simp only [NoKeyword, List.forall_mem_cons] at h
  obtain ⟨notTrue, notFalse, notNull, -⟩ := h
  rw [literalOfWord, notTrue, notFalse, notNull]
  rfl

theorem literalOfWord_number {word : String} {c : Char} {cs : List Char} {x : Binary64}
    (first : word.toList = c :: cs) (plain : c = '-' ∨ c = '+' ∨ isDigit c = true)
    (read : Binary64.ofText? word = some x) : literalOfWord word = .number x := by
  have starts : startsLikeNumber word = true := by
    rw [startsLikeNumber, first]
    rcases plain with rfl | rfl | digit
    · rfl
    · rfl
    · simp [digit]
  rw [literalOfWord_of_noKeyword (noKeyword_of_first first plain), numberOfWord?, if_pos starts, read]

theorem numberOfWord?_of_hyphens {word : String} {c : Char} {cs : List Char}
    (first : word.toList = c :: cs) (noMinus : c ≠ '-') (noPlus : c ≠ '+')
    (hyphens : 1 < word.toList.count '-') : numberOfWord? word = none := by
  rw [numberOfWord?, Binary64.ofText?_of_hyphens first noMinus noPlus hyphens, ite_self]

theorem literalOfWord_guid (g : Guid) : literalOfWord g.text = .guid g := by
  obtain ⟨c, cs, first, noMinus, noPlus⟩ := g.exists_first_text
  have noKeyword : NoKeyword g.text := noKeyword_of_length (by rw [g.length_text]; decide)
  have noNumber := numberOfWord?_of_hyphens first noMinus noPlus g.count_minus_text
  have read : guidOfWord? g.text = some g := by
    rw [guidOfWord?, if_pos g.utf8ByteSize_text, g.ofText?_text]
  rw [literalOfWord_of_noKeyword noKeyword, noNumber, read]

theorem literalOfWord_secondsText {t : Instant} (four : 0 ≤ t.date.year ∧ t.date.year ≤ 9999) :
    literalOfWord t.secondsText = .instant t.wholeSecond := by
  obtain ⟨c, cs, first, digit⟩ := Instant.exists_digit_secondsText four
  obtain ⟨-, noMinus, noPlus⟩ := plain_of_isDigit digit
  have plain : isDigit c = true := isDigit_of_isDigit digit
  have noKeyword := noKeyword_of_first first (.inr (.inr plain))
  have noNumber := numberOfWord?_of_hyphens first noMinus noPlus t.count_minus_secondsText
  have noGuid : guidOfWord? t.secondsText = none := by
    rw [guidOfWord?, Guid.ofText?_of_length (by rw [Instant.length_secondsText four]; decide), ite_self]
  rw [literalOfWord_of_noKeyword noKeyword, noNumber, noGuid, Instant.parse?_secondsText four]

end ODataQuery.Expression
