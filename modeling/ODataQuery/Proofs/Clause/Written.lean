import ODataQuery.Proofs.Clause.Reading
import ODataQuery.Proofs.Filter.Literal

/-! Fragments as conditions: the text of a fragment is the text of the condition it says, whatever
its operands hold. -/
namespace ODataQuery

open Expression (Token IsWord)
open Text (Piece fillPieces)

namespace Operator

theorem fill_plain (args : List String) (text : List Char) : Piece.fill args (.plain text) = text :=
  rfl

theorem fill_first (a : String) (rest : List String) :
    Piece.fill (a :: rest) (slot '0') = a.toList := rfl

theorem fill_second (a b : String) (rest : List String) :
    Piece.fill (a :: b :: rest) (slot '1') = b.toList := rfl

theorem fill_third (a b c : String) (rest : List String) :
    Piece.fill (a :: b :: c :: rest) (slot '2') = c.toList := rfl

theorem write_atomic {o : Operator} (h : o.isAtomic = true) (path : String) (v : Literal) :
    (o.write [path, v.render]).toList = Atom.source ⟨o, path, v.token⟩ := by
  cases o <;> first
    | (cases h; done)
    | simp [write, template, comparison, call, fillPieces, fill_plain, fill_first, fill_second,
        Atom.source, isCall, keyword, v.source_token]

theorem write_notContains (path : String) (v : Literal) :
    (notContains.write [path, v.render]).toList =
      "not ".toList ++ Atom.source ⟨.contains, path, v.token⟩ := by
  simp [write, template, call, fillPieces, fill_plain, fill_first, fill_second, Atom.source, isCall,
    keyword, v.source_token]

theorem write_nullary {o : Operator} (h : o.isNullary = true) (path : String) :
    o.write [path] =
      (if o = .isEmpty then equal else notEqual).write [path, Literal.null.render] := by
  cases o <;> first
    | (cases h; done)
    | simp [write, template, comparison, fillPieces, fill_plain, fill_first, fill_second,
        Literal.render]

theorem write_between (path : String) (low high : Literal) :
    (between.write [path, low.render, high.render]).toList =
      '(' :: (Atom.source ⟨.greaterOrEqual, path, low.token⟩ ++ (" and ".toList ++
        (Atom.source ⟨.lessOrEqual, path, high.token⟩ ++ [')']))) := by
  simp [write, template, fillPieces, fill_plain, fill_first, fill_second, fill_third, Atom.source,
    isCall, keyword, Literal.source_token]

end Operator

/-- A path compared with a literal. Not to contain a text is the negation of a call. -/
def Condition.compare (path : String) (o : Operator) (v : Literal) : Condition :=
  if o = .notContains then .not (.atom ⟨.contains, path, v.token⟩) else .atom ⟨o, path, v.token⟩

namespace Fragment

def condition (path : String) : Fragment → Condition
  | nullary o => .compare path (if o = .isEmpty then .equal else .notEqual) .null
  | single o v => .compare path o v
  | bounded low high =>
    .joined .and [.compare path .greaterOrEqual low, .compare path .lessOrEqual high]
  | anyOf operands => .joined .or (operands.map (Condition.compare path .equal))
  | noneOf operands => .joined .and (operands.map (Condition.compare path .notEqual))

/-- Fragments as filters have them: the operator takes as many operands as there are. -/
def Sound : Fragment → Prop
  | nullary o => o.isNullary = true
  | single o _ => o.isAtomic = true ∨ o = .notContains
  | bounded _ _ => True
  | anyOf operands | noneOf operands => 1 < operands.length

end Fragment

theorem Condition.proper_compare {path : String} (isWord : IsWord path.toList) {o : Operator}
    (h : o.isAtomic = true ∨ o = .notContains) (v : Literal) : (compare path o v).Proper := by
  have operand := v.isOperand_token
  unfold compare
  split
  · exact .call rfl (.atom rfl isWord operand)
  · rename_i other
    exact .atom (h.resolve_right other) isWord operand

theorem Condition.source_compare {o : Operator} (h : o.isAtomic = true ∨ o = .notContains)
    (path : String) (v : Literal) :
    (o.write [path, v.render]).toList = (compare path o v).source := by
  unfold compare
  split
  · rename_i same
    rw [same, Operator.write_notContains, source, source]
  · rename_i other
    rw [Operator.write_atomic (h.resolve_right other), source]

theorem toList_intercalate_cons (separator first : String) (rest : List String) :
    (separator.intercalate (first :: rest)).toList =
      first.toList ++ rest.flatMap fun s => separator.toList ++ s.toList := by
  induction rest generalizing first with
  | nil => simp
  | cons next rest ih =>
    rw [String.intercalate_cons_cons, String.toList_append, String.toList_append, ih,
      List.flatMap_cons, List.append_assoc, List.append_assoc]

theorem Condition.moreSource_eq (j : Combinator) (parts : List Condition) :
    moreSource j parts = parts.flatMap fun c => j.separator.toList ++ c.source := by
  induction parts with
  | nil => rfl
  | cons c rest ih => rw [moreSource, ih, List.flatMap_cons, List.append_assoc]

namespace Fragment

theorem proper_condition {path : String} (isWord : IsWord path.toList) {fragment : Fragment}
    (h : fragment.Sound) : (fragment.condition path).Proper := by
  have compared (o : Operator) (atomic : o.isAtomic = true) (v : Literal) :=
    Condition.proper_compare isWord (.inl atomic) v
  cases fragment with
  | nullary o => exact compared _ (by split <;> rfl) .null
  | single o v => exact Condition.proper_compare isWord h v
  | bounded low high =>
    refine .joined (by simp) ?_
    simp only [List.forall_mem_cons]
    exact ⟨compared _ rfl low, compared _ rfl high, by simp⟩
  | anyOf operands | noneOf operands =>
    refine .joined (by simpa [Sound] using h) ?_
    intro c member
    obtain ⟨v, -, rfl⟩ := List.mem_map.mp member
    exact compared _ rfl v

theorem toList_joined {o : Operator} (atomic : o.isAtomic = true) (path : String) (j : Combinator)
    {operands : List Literal} (several : 1 < operands.length) :
    (joined path o j.separator operands).toList =
      (Condition.joined j (operands.map (Condition.compare path o))).source := by
  obtain ⟨v, rest, rfl⟩ := List.exists_cons_of_length_pos (Nat.zero_lt_of_lt several)
  have compared (v : Literal) := Condition.source_compare (.inl atomic) path v
  rw [joined, List.map_cons, String.toList_append, String.toList_append, toList_intercalate_cons]
  simp [Condition.source, Condition.moreSource_eq, compared, List.flatMap_map]

theorem toList_text {fragment : Fragment} (h : fragment.Sound) (path : String) :
    (fragment.text path).toList = (fragment.condition path).source := by
  cases fragment with
  | nullary o =>
    rw [text, Operator.write_nullary h, Condition.source_compare (.inl (by split <;> rfl))]
    rfl
  | single o v => exact Condition.source_compare h path v
  | bounded low high =>
    rw [text, Operator.write_between]
    simp [condition, Condition.compare, Condition.source, Condition.moreSource,
      Combinator.separator]
  | anyOf operands => exact toList_joined (j := .or) rfl path h
  | noneOf operands => exact toList_joined (j := .and) rfl path h

end Fragment

end ODataQuery
