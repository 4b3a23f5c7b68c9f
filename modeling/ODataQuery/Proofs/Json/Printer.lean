import ODataQuery.Json.Printer
import ODataQuery.Proofs.Filter.Literal

/-! Compact JSON stands on one line: a line feed in a string is escaped, and nothing else could hold
one. -/
namespace ODataQuery.Json

open Expression (isWordChar)

namespace Number

theorem isWordChar_exponentText (z : Int) : ∀ c ∈ exponentText z, isWordChar c = true := by
  refine List.forall_mem_cons.mpr ⟨?_, (isWord_digitsOf _).all⟩
  split <;> decide

theorem isWordChar_magnitudeText (d : Decimal) : ∀ c ∈ magnitudeText d, isWordChar c = true := by
  have digits : ∀ c ∈ digitsOf d.digits, isWordChar c = true := (isWord_digitsOf d.digits).all
  have point : isWordChar '.' = true := by decide
  unfold magnitudeText
  dsimp only
  split
  · exact List.all_eq_true.mp (by decide)
  split
  · simp only [List.forall_mem_append, List.forall_mem_cons]
    exact ⟨⟨digits, fun c => isWordChar_of_mem_replicate⟩, point, by decide, by simp⟩
  split
  · exact d.isWord_positional.all
  · refine List.forall_mem_append.mpr ⟨?_, List.forall_mem_cons.mpr
      ⟨by decide, isWordChar_exponentText _⟩⟩
    split
    · rename_i first second rest same
      rw [same] at digits
      obtain ⟨start, others⟩ := List.forall_mem_cons.mp digits
      exact List.forall_mem_cons.mpr ⟨start, List.forall_mem_cons.mpr ⟨point, others⟩⟩
    · exact digits

theorem isWordChar_sign (negative : Bool) :
    ∀ c ∈ if negative then ['-'] else [], isWordChar c = true := by
  cases negative <;> exact List.all_eq_true.mp (by decide)

theorem isWordChar_intText (z : Int) : ∀ c ∈ intText z, isWordChar c = true := by
  refine List.forall_mem_append.mpr ⟨?_, (isWord_digitsOf _).all⟩
  simpa using isWordChar_sign (decide (z < 0))

theorem isWordChar_text (n : Number) : ∀ c ∈ n.text, isWordChar c = true := by
  have nothing : ∀ c ∈ "null".toList, isWordChar c = true := List.all_eq_true.mp (by decide)
  cases n with
  | integer z => exact isWordChar_intText z
  | real x =>
    cases x with
    | nan | infinite => exact nothing
    | finite negative m =>
      exact List.forall_mem_append.mpr ⟨isWordChar_sign negative, isWordChar_magnitudeText _⟩

end Number

theorem newline_not_mem_of_word {cs : List Char} (word : ∀ c ∈ cs, isWordChar c = true) :
    '\n' ∉ cs := by
  intro member
  exact absurd (word '\n' member) (by decide)

theorem newline_not_mem_escape (c : Char) : '\n' ∉ escape c := by
  have digit : ∀ n < 16, '\n' ≠ hexDigit n := by decide
  unfold escape
  split
  case h_6 _ _ other _ _ =>
    split
    · decide
    split
    · decide
    split
    · simp [digit (c.toNat / 16) (by omega), digit (c.toNat % 16) (by omega)]
    · exact fun member => other (List.mem_singleton.mp member).symm
  all_goals decide

theorem newline_not_mem_quoted (s : String) : '\n' ∉ quoted s := by
  intro member
  rcases List.mem_cons.mp member with same | member
  · cases same
  rcases List.mem_append.mp member with escaped | same
  · obtain ⟨c, -, inside⟩ := List.mem_flatMap.mp escaped
    exact newline_not_mem_escape c inside
  · cases List.mem_singleton.mp same

mutual

theorem newline_not_mem_compactChars : ∀ j : Json, '\n' ∉ j.compactChars
  | null => by decide
  | bool b => by cases b <;> decide
  | number n => newline_not_mem_of_word n.isWordChar_text
  | string s => newline_not_mem_quoted s
  | array items => by
    have inside := newline_not_mem_compactItems items
    simpa [compactChars] using inside
  | object members => by
    have inside := newline_not_mem_compactMembers members
    simpa [compactChars] using inside

theorem newline_not_mem_compactItems : ∀ items : List Json, '\n' ∉ compactItems items
  | [] => by simp [compactItems]
  | [item] => newline_not_mem_compactChars item
  | item :: next :: rest => by
    have first := newline_not_mem_compactChars item
    have others := newline_not_mem_compactItems (next :: rest)
    simp [compactItems, first, others]

theorem newline_not_mem_compactMembers :
    ∀ members : List (String × Json), '\n' ∉ compactMembers members
  | [] => by simp [compactMembers]
  | [(key, value)] => by
    have first := newline_not_mem_compactChars value
    simp [compactMembers, newline_not_mem_quoted key, first]
  | (key, value) :: next :: rest => by
    have first := newline_not_mem_compactChars value
    have others := newline_not_mem_compactMembers (next :: rest)
    simp [compactMembers, newline_not_mem_quoted key, first, others]

end

end ODataQuery.Json
