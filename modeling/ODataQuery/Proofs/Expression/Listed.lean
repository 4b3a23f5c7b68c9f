import Mathlib.Data.List.Forall2
import ODataQuery.Proofs.Clause.Written
import ODataQuery.Proofs.Expression.Acceptance

/-! Lists of values in expressions. Texts that are read as a literal each are read as the list of them
where they stand in parentheses, with commas between them. -/
namespace ODataQuery.Expression

/-- A text is scanned as one operand, and is read as the literal. -/
def ReadsAs (s : String) (v : Literal) : Prop :=
  ∃ t : Token, t.IsOperand ∧ t.source = s.toList ∧ IsLiteral t v

theorem readsAs_word {w : String} {v : Literal} (isWord : IsWord w.toList)
    (read : literalOfWord w = v) : ReadsAs w v := by
  rw [← read]
  exact ⟨.word w, isWord, rfl, .word w⟩

theorem readsAs_map {α : Type} {text : α → String} {value : α → Literal} {items : List α}
    (read : ∀ a ∈ items, ReadsAs (text a) (value a)) :
    List.Forall₂ ReadsAs (items.map text) (items.map value) := by
  rw [List.forall₂_map_left_iff, List.forall₂_map_right_iff, List.forall₂_same]
  exact read

def amongText (field : String) (excluded : Bool) (texts : List String) : String :=
  field ++ (if excluded then " not in (" else " in (") ++ ", ".intercalate texts ++ ")"

def moreChars (texts : List String) : List Char :=
  (texts.flatMap fun s => ", ".toList ++ s.toList) ++ [')']

theorem apart_moreChars (texts : List String) : Apart (moreChars texts) := by
  cases texts <;> (simp [Apart, moreChars]; decide)

/-- The values behind the first one are read from left to right. -/
theorem scans_moreChars {texts : List String} {values : List Literal}
    (read : List.Forall₂ ReadsAs texts values) :
    ∃ ts, Scans (moreChars texts) ts [] ∧ MoreOfList ts values := by
  induction read with
  | nil =>
    have close : Scans [')'] [.closeParen] [] := .token .closeParen .done
    exact ⟨_, close, .close⟩
  | @cons s v rest more value _ ih =>
    obtain ⟨ts, scans, list⟩ := ih
    obtain ⟨t, operand, source, literal⟩ := value
    have behind := (Scans.token (operand.spelled (apart_moreChars rest)) scans).space
    refine ⟨.comma :: t :: ts, ?_, .more literal list⟩
    have comma := Scans.token .comma behind
    rw [source] at comma
    simpa [moreChars] using comma

theorem toList_amongText (field : String) (excluded : Bool) (first : String) (more : List String) :
    (amongText field excluded (first :: more)).toList =
      field.toList ++ ((if excluded then " not in (" else " in (").toList ++
        (first.toList ++ moreChars more)) := by
  rw [amongText, String.toList_append, String.toList_append, String.toList_append,
    toList_intercalate_cons, List.append_assoc, List.append_assoc, List.append_assoc]
  rfl

theorem scans_amongText {field : String} (isField : IsWord field.toList) (excluded : Bool)
    {texts : List String} {values : List Literal} (read : List.Forall₂ ReadsAs texts values)
    (nonempty : texts ≠ []) :
    ∃ ts, Scans (amongText field excluded texts).toList (.word field :: ts) [] ∧
      IsPhrase ts (.among excluded values) := by
  obtain - | @⟨first, _, rest, _, value, more⟩ := read
  · exact absurd rfl nonempty
  obtain ⟨ts, scans, others⟩ := scans_moreChars more
  obtain ⟨t, operand, source, literal⟩ := value
  have values := Scans.token (operand.spelled (apart_moreChars rest)) scans
  rw [source] at values
  have list := Scans.token .openParen values
  have isList := IsList.values literal others
  have blank : isWordChar ' ' = false := by decide
  have isIn : IsWord "in".toList := by decide
  have isNot : IsWord "not".toList := by decide
  have wordIn : (Token.word "in").isKeyword "in" = true := by decide
  have wordNot : (Token.word "not").isKeyword "not" = true := by decide
  have behind := (Scans.word isIn blank list.space).space
  rw [toList_amongText]
  cases excluded with
  | false => exact ⟨_, Scans.word isField blank behind, .among wordIn isList⟩
  | true =>
    have negated := (Scans.word isNot blank behind).space
    exact ⟨_, Scans.word isField blank negated, .notAmong wordNot wordIn isList⟩

/-- A clause that stands alone is the one filter of its collection. -/
theorem parse_clause {text field : String} {ts : List Token} {p : Phrase}
    (scans : Scans text.toList (.word field :: ts) []) (phrase : IsPhrase ts p) (typed : p.Typed) :
    parse text = .ok ⟨numbered [Written.filter ⟨field, p⟩], .and⟩ := by
  have expression : IsExpression .and (.word field :: ts) [⟨field, p⟩] := by
    simpa using IsExpression.clauses (.clause phrase) .done
  exact parse_written_iff.mpr ⟨_, .and, [⟨field, p⟩], scans, expression, by simpa using typed,
    fun _ => rfl, rfl⟩

theorem parse_amongText {field : String} (isField : IsWord field.toList) (excluded : Bool)
    {texts : List String} {values : List Literal} (read : List.Forall₂ ReadsAs texts values)
    (nonempty : texts ≠ []) :
    parse (amongText field excluded texts) =
      .ok ⟨numbered [Written.filter ⟨field, .among excluded values⟩], .and⟩ := by
  obtain ⟨ts, scans, phrase⟩ := scans_amongText isField excluded read nonempty
  exact parse_clause scans phrase trivial

end ODataQuery.Expression
