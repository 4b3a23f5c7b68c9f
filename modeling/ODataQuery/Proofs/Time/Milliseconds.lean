import ODataQuery.Proofs.Expression.Places
import ODataQuery.Proofs.Time.Accepted
import ODataQuery.Proofs.Time.Moving

/-! Dates given as milliseconds. Between their marks stands a whole number with an offset behind it,
and the two are told apart by place alone: a sign that comes first belongs to the number, and any
later one begins the offset. -/
namespace ODataQuery

namespace Instant

/-- Milliseconds are whole, so that none of them leads to a leap second. -/
theorem ofMillis?_eq_some_iff {millis : Int} {t : Instant} :
    ofMillis? millis = some t ↔
      t.nanos < 1000000000 ∧ t.seconds * 1000000000 + t.nanos = millis * 1000000 := by
  constructor
  · intro made
    obtain ⟨seconds, nanos⟩ := of_ofSeconds? made
    omega
  · rintro ⟨whole, same⟩
    have second : millis / 1000 = t.seconds := by omega
    have nanos : (millis % 1000).toNat * 1000000 = t.nanos := by omega
    rw [ofMillis?, second, nanos]
    exact dif_pos t.representable

theorem ofMillis?_eq_none_iff {millis : Int} :
    ofMillis? millis = none ↔ Untold (millis / 1000) :=
  ofSeconds?_eq_none_iff (by omega)

end Instant

namespace Time

open Expression (byteLength byteLength_cons isValid_byteLength utf8ByteSize_ofList)

def isSign (c : Char) : Bool := c = '+' ∨ c = '-'

/-- The characters of a text, each with the byte at which it begins. -/
def places (position : Nat) : List Char → List (Nat × Char)
  | [] => []
  | c :: rest => (position, c) :: places (position + c.utf8Size) rest

/-- The byte at which the offset begins: that of the first sign behind the first character, or the end
if there is none. -/
def offsetPlace (body : List Char) : Nat :=
  ((((places 0 body).drop 1).find? (isSign ·.2)).map (·.1)).getD (byteLength body)

theorem find?_places (position : Nat) (cs : List Char) :
    (((places position cs).find? (isSign ·.2)).map (·.1)).getD (position + byteLength cs) =
      position + byteLength (cs.takeWhile (!isSign ·)) := by
  induction cs generalizing position with
  | nil => rfl
  | cons c rest ih =>
    rw [places]
    cases sign : isSign c with
    | true => simp [sign, byteLength]
    | false =>
      rw [List.find?_cons_of_neg (by simp [sign]), List.takeWhile_cons_of_pos (by simp [sign]),
        byteLength_cons, byteLength_cons, ← Nat.add_assoc, ← Nat.add_assoc]
      exact ih (position + c.utf8Size)

theorem offsetPlace_cons (c : Char) (rest : List Char) :
    offsetPlace (c :: rest) = byteLength (c :: rest.takeWhile (!isSign ·)) := by
  have place := find?_places (0 + c.utf8Size) rest
  rw [Nat.zero_add] at place
  rw [offsetPlace, places, List.drop_one, List.tail_cons, Nat.zero_add]
  exact place

/-- Cutting a text at a byte splits no character, and leaves `front` before the cut. -/
def CutsBehind (front text : List Char) (place : Nat) : Prop :=
  String.Pos.Raw.IsValid (String.ofList text) ⟨place⟩ ∧
    (String.ofList text).toByteArray.extract 0 place = (String.ofList front).toByteArray

theorem cutsBehind_append (front back : List Char) :
    CutsBehind front (front ++ back) (byteLength front) := by
  refine ⟨isValid_byteLength String.toList_ofList, ?_⟩
  rw [String.ofList_append, String.toByteArray_append]
  refine ByteArray.extract_append_eq_left ?_
  rw [String.size_toByteArray, utf8ByteSize_ofList]

theorem offsetPlace_cuts (c : Char) (rest : List Char) :
    CutsBehind (c :: rest.takeWhile (!isSign ·)) (c :: rest) (offsetPlace (c :: rest)) := by
  have cuts := cutsBehind_append (c :: rest.takeWhile (!isSign ·)) (rest.dropWhile (!isSign ·))
  rw [List.cons_append, List.takeWhile_append_dropWhile] at cuts
  rwa [offsetPlace_cons]

/-- No sign but the first character is part of a number. -/
theorem exists_unsigned {number : List Char} {n : Int} (written : IsWhole number n) :
    ∃ c rest, number = c :: rest ∧ ∀ d ∈ rest, isSign d = false := by
  have unsigned {digits : List Char} {n : Nat} (numeral : IsNumeral digits n) :
      ∀ d ∈ digits, isSign d = false := by
    intro d member
    obtain ⟨-, noMinus, noPlus⟩ := plain_of_isDigit (numeral.2.1 d member)
    simp [isSign, noMinus, noPlus]
  cases written with
  | plain numeral =>
    obtain ⟨c, rest, rfl⟩ := List.exists_cons_of_ne_nil numeral.1
    exact ⟨c, rest, rfl, (List.forall_mem_cons.mp (unsigned numeral)).2⟩
  | plus numeral => exact ⟨'+', _, rfl, unsigned numeral⟩
  | minus numeral => exact ⟨'-', _, rfl, unsigned numeral⟩

/-- A number and the offset behind it are told apart. -/
theorem takeWhile_number {rest offset : List Char} (unsigned : ∀ d ∈ rest, isSign d = false)
    (signed : ∀ c ∈ offset.head?, isSign c = true) :
    (rest ++ offset).takeWhile (!isSign ·) = rest := by
  refine (@Text.longest_run (!isSign ·) rest offset ?_ ?_).1
  · intro d member
    rw [unsigned d member]
    rfl
  · intro c first
    rw [signed c first]
    rfl

theorem millisBody?_marked (body : List Char) :
    millisBody? ("/Date(".toList ++ (body ++ ")/".toList)) = some body := by
  have opening : "/Date(".toList.isPrefixOf ("/Date(".toList ++ (body ++ ")/".toList)) = true :=
    List.isPrefixOf_iff_prefix.mpr (List.prefix_append ..)
  have closing : ")/".toList.isSuffixOf (body ++ ")/".toList) = true :=
    List.isSuffixOf_iff_suffix.mpr (List.suffix_append ..)
  have length : ("/Date(".toList ++ (body ++ ")/".toList)).length - "/Date(".toList.length -
      ")/".toList.length = body.length := by
    simp only [List.length_append]
    omega
  rw [millisBody?, List.drop_left, length, List.take_left, if_pos ⟨opening, closing⟩]

theorem millis?_marked {number offset : List Char} {n : Int} (written : IsWhole number n)
    (least : -9223372036854775808 ≤ n) (most : n ≤ 9223372036854775807)
    (signed : ∀ c ∈ offset.head?, isSign c = true) :
    millis? ("/Date(".toList ++ (number ++ offset ++ ")/".toList)) = some n := by
  have read : intWithin? (-9223372036854775808) 9223372036854775807 (String.ofList number) = some n :=
    intWithin?_eq_some_iff.mpr ⟨by rwa [String.toList_ofList], least, most⟩
  obtain ⟨c, rest, rfl, unsigned⟩ := exists_unsigned written
  have digits := takeWhile_number unsigned signed
  rw [millis?, millisBody?_marked]
  exact (congrArg (fun cs => intWithin? _ _ (String.ofList (c :: cs))) digits).trans read

/-- The marks of a date in milliseconds are no blanks. -/
theorem trimChars_marked {front back : List Char} (body : List Char)
    (blankFront : ∀ c ∈ front, Text.isBlank c = true)
    (blankBack : ∀ c ∈ back, Text.isBlank c = true) :
    Text.trimChars (front ++ ("/Date(".toList ++ (body ++ ")/".toList) ++ back)) =
      "/Date(".toList ++ (body ++ ")/".toList) := by
  have slash : Text.isBlank '/' = false := by decide
  refine Text.trimChars_between blankFront ?_ ?_ blankBack
  · intro c first
    cases first
    exact slash
  · intro c last
    rw [← List.append_assoc, List.getLast?_append] at last
    cases last
    exact slash

/-- Between its marks and any blanks, a whole number of 64 bits is read as milliseconds after the start
of 1970, whatever stands behind it from a sign on. There is no instant only where the years end, and the
cut in front of the offset splits no character. -/
theorem parse?_millis {n : Int} (least : -9223372036854775808 ≤ n)
    (most : n ≤ 9223372036854775807) {number offset front back : List Char}
    (written : IsWhole number n) (signed : ∀ c ∈ offset.head?, c = '+' ∨ c = '-')
    (blankFront : ∀ c ∈ front, Text.isBlank c = true)
    (blankBack : ∀ c ∈ back, Text.isBlank c = true) :
    let text := String.ofList
      (front ++ ("/Date(".toList ++ (number ++ offset ++ ")/".toList) ++ back))
    parse? text = Instant.ofMillis? n ∧
    (∀ t, parse? text = some t ↔
      t.nanos < 1000000000 ∧ t.seconds * 1000000000 + t.nanos = n * 1000000) ∧
    (parse? text = none ↔ Instant.Untold (n / 1000)) ∧
    CutsBehind number (number ++ offset) (offsetPlace (number ++ offset)) := by
  intro text
  have signed : ∀ c ∈ offset.head?, isSign c = true := fun c first => decide_eq_true (signed c first)
  have read : parse? text = Instant.ofMillis? n := by
    rw [parse?, String.toList_ofList, trimChars_marked _ blankFront blankBack,
      millis?_marked written least most signed]
  refine ⟨read, fun t => ?_, ?_, ?_⟩
  · rw [read]
    exact Instant.ofMillis?_eq_some_iff
  · rw [read]
    exact Instant.ofMillis?_eq_none_iff
  · obtain ⟨c, rest, rfl, unsigned⟩ := exists_unsigned written
    have cuts := offsetPlace_cuts c (rest ++ offset)
    rwa [takeWhile_number unsigned signed] at cuts

/-- A sign in front of the number and more marks in the offset, and the least number of 64 bits. -/
theorem parse?_millis_signs :
    parse? "\u3000/Date(-1+é)/-)/\n" = some ⟨-1, 999000000, by decide⟩ ∧
      offsetPlace "-1+é)/-".toList = 2 ∧ parse? "/Date(-9223372036854775808-0500)/" = none := by
  have one : IsWhole "-1".toList (-1) := .minus (natOfDigits?_eq_some_iff.mp (by decide))
  have least : IsWhole "-9223372036854775808".toList (-9223372036854775808) :=
    .minus (natOfDigits?_eq_some_iff.mp (by decide))
  have plus : ∀ c ∈ "+é)/-".toList.head?, c = '+' ∨ c = '-' := by simp
  have minus : ∀ c ∈ "-0500".toList.head?, c = '+' ∨ c = '-' := by simp
  have blankFront : ∀ c ∈ ['\u3000'], Text.isBlank c = true :=
    List.forall_mem_singleton.mpr (by decide)
  have blankBack : ∀ c ∈ ['\n'], Text.isBlank c = true := List.forall_mem_singleton.mpr (by decide)
  have near := (parse?_millis (by decide) (by decide) one plus blankFront blankBack).1
  have far := (parse?_millis (by decide) (by decide) least minus
    (List.forall_mem_nil _) (List.forall_mem_nil _)).2.2.1
  exact ⟨near.trans (by decide), by decide, far.mpr (.inl (by decide))⟩

end Time
end ODataQuery
