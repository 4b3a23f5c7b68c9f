import ODataQuery.Proofs.Expression.Listed
import ODataQuery.Proofs.Expression.Word

/-! Literals that are written in an expression and read again. A text comes back from its quotes, and of
the other literals each word is read as the kind it was written for. -/
namespace ODataQuery

open Expression (IsWord ReadsAs literalOfWord readsAs_word readsAs_map parse_amongText)

namespace Literal

/-- The literals with a text of their own: numbers have digits, and instants a year of four digits. -/
def Legible : Literal → Prop
  | number x => x.isFinite = true
  | instant t => 0 ≤ t.date.year ∧ t.date.year ≤ 9999
  | text _ | boolean _ | guid _ | null => True

instance : DecidablePred Legible
  | number x => inferInstanceAs (Decidable (x.isFinite = true))
  | instant t => inferInstanceAs (Decidable (0 ≤ t.date.year ∧ t.date.year ≤ 9999))
  | text _ | boolean _ | guid _ | null => .isTrue trivial

/-- What the text of a literal says: instants to the second, and zero without its sign. -/
def reread : Literal → Literal
  | number x => number x.unsignedZero
  | instant t => instant t.wholeSecond
  | v => v

theorem literalOfWord_numberText {x : Binary64} (finite : x.isFinite = true) :
    literalOfWord (numberText x) = number x.unsignedZero := by
  have read := ofText?_numberText finite
  cases zero : x.isZero with
  | true =>
    rw [numberText, Binary64.unsignedZero, if_pos zero, if_pos zero]
    decide
  | false =>
    cases x with
    | nan | infinite => cases finite
    | finite negative m =>
      obtain ⟨c, cs, first, plain⟩ := Binary64.exists_first_text m negative
      have text : numberText (.finite negative m) = (Binary64.finite negative m).text :=
        if_neg (by simp [zero])
      rw [text] at read ⊢
      exact Expression.literalOfWord_number first plain read

theorem literalOfWord_boolean (b : Bool) : literalOfWord (boolean b).render = boolean b := by
  cases b <;> rfl

/-- A literal is written as one operand, and is read as what its text says. -/
theorem readsAs_render {v : Literal} (legible : v.Legible) : ReadsAs v.render v.reread := by
  have operand := v.isOperand_token
  cases v with
  | text s => exact ⟨.quoted s, trivial, rfl, .quoted s⟩
  | number x => exact readsAs_word operand (literalOfWord_numberText legible)
  | boolean b => exact readsAs_word operand (literalOfWord_boolean b)
  | instant t => exact readsAs_word operand (Expression.literalOfWord_secondsText legible)
  | guid g => exact readsAs_word operand (Expression.literalOfWord_guid g)
  | null => exact readsAs_word operand rfl

end Literal

/-- Where equality of values is equality, selecting values keeps the first of each. -/
theorem Payload.selection_eq_eraseDups {values : List Literal}
    (told : ∀ v ∈ values, ∀ w ∈ values, v.same w = true ↔ v = w) :
    selection values = values.eraseDups := by
  induction values using List.reverseRecOn with
  | nil => rfl
  | append_singleton values v ih =>
    have before := ih fun w left u right => told w (by simp [left]) u (by simp [right])
    have known : (values.eraseDups.any fun w => w.same v) = true ↔ v ∈ values.eraseDups := by
      rw [List.any_eq_true]
      constructor
      · rintro ⟨w, member, same⟩
        have inside : w ∈ values := List.mem_eraseDups.mp member
        rwa [← (told w (by simp [inside]) v (by simp)).mp same]
      · intro member
        exact ⟨v, member, (told v (by simp) v (by simp)).mpr rfl⟩
    rw [selection_concat, before, Grouping.eraseDups_concat, select, Grouping.insertNew,
      if_congr known rfl rfl]

namespace Binary64

theorem isFinite_unsignedZero {x : Binary64} : x.unsignedZero.isFinite = x.isFinite := by
  cases x with
  | nan | infinite => rfl
  | finite negative m =>
    unfold unsignedZero
    split <;> rfl

theorem sign_unsignedZero {x : Binary64} {negative : Bool} {m : Magnitude}
    (plain : x.unsignedZero = finite negative m) (none : m.units = 0) : negative = false := by
  unfold unsignedZero at plain
  split at plain
  · cases plain
    rfl
  · rename_i nonzero
    rw [plain] at nonzero
    exact absurd (beq_iff_eq.mpr none) nonzero

/-- Finite numbers of which none is a negative zero are told apart by their values. -/
theorem same_unsignedZero_iff {x y : Binary64} (isFinite : x.isFinite = true) :
    x.unsignedZero.same y.unsignedZero = true ↔ x.unsignedZero = y.unsignedZero := by
  constructor
  · intro same
    rw [← isFinite_unsignedZero] at isFinite
    cases left : x.unsignedZero with
    | nan | infinite =>
      rw [left] at isFinite
      cases isFinite
    | finite s m =>
      cases right : y.unsignedZero with
      | nan | infinite =>
        rw [left, right] at same
        cases same
      | finite t n =>
        rw [left, right] at same
        obtain ⟨units, sign | zero⟩ := same_finite_iff.mp same
        · rw [Magnitude.eq_of_units units, sign]
        -- equal zeros may differ in sign, but these have none
        · rw [Magnitude.eq_of_units units, sign_unsignedZero left zero,
            sign_unsignedZero right (units ▸ zero)]
  · intro same
    rw [same, same_self_iff, ← same]
    intro nan
    rw [← isFinite_unsignedZero, nan] at isFinite
    cases isFinite

end Binary64

theorem Literal.same_reread_iff {v w : Literal} (legible : v.Legible) :
    v.reread.same w.reread = true ↔ v.reread = w.reread := by
  cases v with
  | number x =>
    cases w with
    | number y => exact (Binary64.same_unsignedZero_iff legible).trans (by simp [reread])
    | text | boolean | instant | guid | null => simp [reread, same]
  | text | boolean | instant | guid | null => cases w <;> simp [reread, same]

namespace Expression

/-- The literals that are listed behind a field are the values of its filter, each of them once and in
the order of their first occurrences. -/
theorem parse_rendered {field : String} (isField : IsWord field.toList) {values : List Literal}
    (nonempty : values ≠ []) (legible : ∀ v ∈ values, v.Legible) :
    parse (field ++ " in (" ++ ", ".intercalate (values.map Literal.render) ++ ")") =
      .ok ⟨[{ id := Guid.ofNat 1, field, operator := .equal,
              payload := .choice (values.map Literal.reread).eraseDups }], .and⟩ := by
  have read := readsAs_map fun v member => Literal.readsAs_render (legible v member)
  have parsed := parse_amongText isField false read (by simpa using nonempty)
  have selected : Payload.selection (values.map Literal.reread) =
      (values.map Literal.reread).eraseDups := by
    refine Payload.selection_eq_eraseDups ?_
    simp only [List.forall_mem_map]
    exact fun v member w _ => Literal.same_reread_iff (legible v member)
  rw [← selected]
  exact parsed

def leapDay : Instant := ⟨1709251199, 0, by decide⟩

/-- Literals of every kind, with two zeros and two instants of one second. -/
def mixed : List Literal :=
  [.text "it's", .number (.zero true), .instant ⟨1709251199, 5, by decide⟩, .boolean true,
    .number (.zero false), .instant leapDay, .null, .guid .nil, .number (.ofInt (-7))]

theorem parse_rendered_mixed :
    IsWord "Tag".toList ∧ mixed ≠ [] ∧ (∀ v ∈ mixed, v.Legible) ∧
      parse ("Tag in ('it''s', 0, 2024-02-29T23:59:59Z, true, 0, 2024-02-29T23:59:59Z, null, " ++
        "00000000-0000-0000-0000-000000000000, -7)") =
        .ok ⟨[{ id := Guid.ofNat 1, field := "Tag", operator := .equal,
                payload := .choice [.text "it's", .number (.zero false), .instant leapDay,
                  .boolean true, .null, .guid .nil, .number (.ofInt (-7))] }], .and⟩ := by
  have isField : IsWord "Tag".toList := by decide
  have nonempty : mixed ≠ [] := List.cons_ne_nil _ _
  have legible : ∀ v ∈ mixed, v.Legible := by decide +kernel
  have parsed := parse_rendered isField nonempty legible
  have text : "Tag" ++ " in (" ++ ", ".intercalate (mixed.map Literal.render) ++ ")" =
      "Tag in ('it''s', 0, 2024-02-29T23:59:59Z, true, 0, 2024-02-29T23:59:59Z, null, " ++
        "00000000-0000-0000-0000-000000000000, -7)" := by decide +kernel
  have kept : (mixed.map Literal.reread).eraseDups =
      [.text "it's", .number (.zero false), .instant leapDay, .boolean true, .null, .guid .nil,
        .number (.ofInt (-7))] := by decide +kernel
  rw [text, kept] at parsed
  exact ⟨isField, nonempty, legible, parsed⟩

end Expression

end ODataQuery
