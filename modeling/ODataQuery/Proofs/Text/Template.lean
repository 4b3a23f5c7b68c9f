import ODataQuery.Proofs.Number.Digits
import ODataQuery.Text.Template

/-! Filling templates, told by the pieces that a template is written with. A template is gone over once:
each piece gives way to what it stands for, and nothing that was put in is looked at again. -/
namespace ODataQuery.Text

namespace Piece

/-- A text without an opening brace, or a number in braces. -/
inductive IsWritten : Piece → Prop
  | plain : '{' ∉ text → IsWritten (.plain text)
  | slot : IsNumeral digits n → IsWritten (.slot digits)

/-- What a piece stands for: a text for itself, and a slot for the argument of its number, or for itself
when there are not so many. -/
def meaning (args : List String) : Piece → List Char
  | plain text => text
  | slot digits =>
    if number : Nat.ofDigitChars 10 digits 0 < args.length then
      (args[Nat.ofDigitChars 10 digits 0]).toList
    else '{' :: (digits ++ ['}'])

end Piece

/-- A number without a sign is read if it is small enough. -/
theorem natWithin?_numeral {digits : List Char} {n bound : Nat} (numeral : IsNumeral digits n) :
    natWithin? bound (String.ofList digits) = if n ≤ bound then some n else none := by
  obtain ⟨c, rest, rfl⟩ := List.exists_cons_of_ne_nil numeral.1
  obtain ⟨-, -, noPlus⟩ := plain_of_isDigit (numeral.2.1 c List.mem_cons_self)
  have read := natOfDigits?_eq_some_iff.mpr numeral
  rw [natWithin?, String.toList_ofList]
  simp [noPlus, read]

/-- No argument has a number that is too large to be read. -/
theorem fill_slot {args : List String} {digits : List Char} {n : Nat}
    (few : args.length ≤ 2 ^ 64) (numeral : IsNumeral digits n) :
    Piece.fill args (.slot digits) = Piece.meaning args (.slot digits) := by
  rw [Piece.fill, Piece.meaning, natWithin?_numeral numeral, numeral.2.2]
  by_cases below : n < args.length
  · have small : n ≤ 18446744073709551615 := by omega
    rw [if_pos small, Option.bind_some, List.getElem?_eq_getElem below, dif_pos below]
  · have none : (if n ≤ 18446744073709551615 then some n else none).bind (args[·]?) = none := by
      split
      · exact List.getElem?_eq_none (by omega)
      · rfl
    rw [none, dif_neg below, Piece.source]

theorem piecesOf_slot {inner : List Char} (closes : '}' ∉ inner) (rest : List Char) :
    piecesOf ('{' :: (inner ++ '}' :: rest)) = .slot inner :: piecesOf rest := by
  have inside : ∀ c ∈ inner, decide (c ≠ '}') = true := by
    intro c member
    refine decide_eq_true ?_
    rintro rfl
    exact closes member
  have run := @longest_run (· ≠ '}') inner ('}' :: rest) inside (by simp)
  rw [piecesOf, if_pos rfl]
  split
  · rename_i unclosed
    rw [run.2] at unclosed
    cases unclosed
  · rename_i closed
    rw [run.2] at closed
    cases closed
    rw [run.1]

theorem fillPieces_consPlain (args : List String) (c : Char) (pieces : List Piece) :
    fillPieces args (consPlain c pieces) = c :: fillPieces args pieces := by
  unfold consPlain
  split <;> rfl

theorem fillPieces_plain {text : List Char} (opens : '{' ∉ text) (args : List String)
    (rest : List Char) :
    fillPieces args (piecesOf (text ++ rest)) = text ++ fillPieces args (piecesOf rest) := by
  induction text with
  | nil => rfl
  | cons c text ih =>
    obtain ⟨first, others⟩ := not_or.mp (List.mem_cons.not.mp opens)
    rw [List.cons_append, piecesOf, if_neg (Ne.symm first), fillPieces_consPlain, ih others,
      List.cons_append]

theorem fillPieces_source {args : List String} (few : args.length ≤ 2 ^ 64) {piece : Piece}
    (written : piece.IsWritten) (rest : List Char) :
    fillPieces args (piecesOf (piece.source ++ rest)) =
      piece.meaning args ++ fillPieces args (piecesOf rest) := by
  cases written with
  | plain opens => exact fillPieces_plain opens args rest
  | @slot digits n numeral =>
    have closes : '}' ∉ digits := fun member => absurd (numeral.2.1 _ member) (by decide)
    have whole : Piece.source (.slot digits) ++ rest = '{' :: (digits ++ '}' :: rest) := by
      simp [Piece.source]
    rw [whole, piecesOf_slot closes, ← fill_slot few numeral]
    rfl

theorem fillPieces_sources {args : List String} (few : args.length ≤ 2 ^ 64) {pieces : List Piece}
    (written : ∀ piece ∈ pieces, piece.IsWritten) :
    fillPieces args (piecesOf (pieces.flatMap Piece.source)) =
      pieces.flatMap (Piece.meaning args) := by
  induction pieces with
  | nil => simp [piecesOf, fillPieces]
  | cons piece pieces ih =>
    obtain ⟨first, others⟩ := List.forall_mem_cons.mp written
    rw [List.flatMap_cons, fillPieces_source few first, ih others, List.flatMap_cons]

/-- Any template is gone over to its end, and one that is written with texts and numbered slots is
filled piece by piece: texts stay, and so do slots whose number is none of an argument, and each other
slot is replaced by its argument as that is. Arguments are no more than a word of 64 bits can number. -/
theorem fillTemplate_pieces {args : List String} (few : args.length ≤ 2 ^ 64) {pieces : List Piece}
    (written : ∀ piece ∈ pieces, piece.IsWritten) :
    fillTemplate (String.ofList (pieces.flatMap Piece.source)) args =
      String.ofList (pieces.flatMap (Piece.meaning args)) ∧
    ∀ template : String, (piecesOf template.toList).flatMap Piece.source = template.toList := by
  refine ⟨?_, fun template => source_piecesOf template.toList⟩
  rw [fillTemplate, String.toList_ofList, fillPieces_sources few written]

/-- Arguments that look like slots, and a slot without an argument. -/
theorem fillTemplate_pieces_braces :
    let args := ["\x7b1\x7d", "\x7b0\x7d \x7b"]
    let pieces : List Piece :=
      [.slot ['0'], .plain " \x7d of ".toList, .slot ['0', '1'], .slot ['2']]
    args.length ≤ 2 ^ 64 ∧ (∀ piece ∈ pieces, piece.IsWritten) ∧
      fillTemplate "\x7b0\x7d \x7d of \x7b01\x7d\x7b2\x7d" args =
        "\x7b1\x7d \x7d of \x7b0\x7d \x7b\x7b2\x7d" := by
  intro args pieces
  have few : args.length ≤ 2 ^ 64 := by decide
  have numeral {digits : List Char} {n : Nat} (read : natOfDigits? digits = some n) :
      Piece.IsWritten (.slot digits) := .slot (natOfDigits?_eq_some_iff.mp read)
  have written : ∀ piece ∈ pieces, piece.IsWritten := by
    simp only [pieces, List.forall_mem_cons]
    exact ⟨numeral (n := 0) (by decide), .plain (by decide), numeral (n := 1) (by decide),
      numeral (n := 2) (by decide), by simp⟩
  have filled := (fillTemplate_pieces few written).1
  have template : String.ofList (pieces.flatMap Piece.source) =
      "\x7b0\x7d \x7d of \x7b01\x7d\x7b2\x7d" := by decide
  have result : String.ofList (pieces.flatMap (Piece.meaning args)) =
      "\x7b1\x7d \x7d of \x7b0\x7d \x7b\x7b2\x7d" := by decide
  rw [template, result] at filled
  exact ⟨few, written, filled⟩

end ODataQuery.Text
