import ODataQuery.Clause.Basic
import ODataQuery.Proofs.Expression.Scanning

/-! Conditions: what the text of a clause says. A condition is a tree over atoms, the comparisons
and calls of the text, so that a clause can be read back, compared and evaluated. -/
namespace ODataQuery

open Expression (Token IsWord Scans Spelled isWordChar)

namespace Operator

def isCall : Operator → Bool
  | contains | startsWith | endsWith => true
  | _ => false

/-- Operators that are written as one word, between its operands or in front of them. -/
def isAtomic : Operator → Bool
  | equal | notEqual | greater | greaterOrEqual | less | lessOrEqual => true
  | o => o.isCall

end Operator

structure Atom where
  operator : Operator
  path : String
  operand : Token
  deriving DecidableEq

inductive Condition
  | atom (atom : Atom)
  | not (inner : Condition)
  | joined (combinator : Combinator) (parts : List Condition)

namespace Condition

mutual

def decEq : (c d : Condition) → Decidable (c = d)
  | .atom a, .atom b => decidable_of_iff (a = b) (by simp)
  | .not c, .not d =>
    have := decEq c d
    decidable_of_iff (c = d) (by simp)
  | .joined j cs, .joined k ds =>
    have := listDecEq cs ds
    decidable_of_iff (j = k ∧ cs = ds) (by simp)
  | .atom _, .not _ | .atom _, .joined _ _ | .not _, .atom _ | .not _, .joined _ _
  | .joined _ _, .atom _ | .joined _ _, .not _ => .isFalse (by simp)

def listDecEq : (cs ds : List Condition) → Decidable (cs = ds)
  | [], [] => .isTrue rfl
  | [], _ :: _ | _ :: _, [] => .isFalse (by simp)
  | c :: cs, d :: ds =>
    have := decEq c d
    have := listDecEq cs ds
    decidable_of_iff (c = d ∧ cs = ds) (by simp)

end

instance : DecidableEq Condition := decEq

mutual

/-- Whether a condition holds when `v` says which atoms do. -/
def holds (v : Atom → Bool) : Condition → Bool
  | atom a => v a
  | not c => !c.holds v
  | joined .and parts => allHold v parts
  | joined .or parts => anyHolds v parts

def allHold (v : Atom → Bool) : List Condition → Bool
  | [] => true
  | c :: rest => c.holds v && allHold v rest

def anyHolds (v : Atom → Bool) : List Condition → Bool
  | [] => false
  | c :: rest => c.holds v || anyHolds v rest

end

/-- The parts of a condition with what joins them; a single part is the condition itself. -/
def join (j : Combinator) : List Condition → Condition
  | [only] => only
  | parts => joined j parts

def joinAny? (j : Combinator) : List Condition → Option Condition
  | [] => none
  | parts => some (join j parts)

def joint (j : Combinator) (v : Atom → Bool) (parts : List Condition) : Bool :=
  match j with
  | .and => parts.all (holds v)
  | .or => parts.any (holds v)

theorem allHold_eq (v : Atom → Bool) (parts : List Condition) :
    allHold v parts = parts.all (holds v) := by
  induction parts with
  | nil => rfl
  | cons c rest ih => rw [allHold, ih, List.all_cons]

theorem anyHolds_eq (v : Atom → Bool) (parts : List Condition) :
    anyHolds v parts = parts.any (holds v) := by
  induction parts with
  | nil => rfl
  | cons c rest ih => rw [anyHolds, ih, List.any_cons]

theorem holds_join (j : Combinator) (v : Atom → Bool) (parts : List Condition) :
    (join j parts).holds v = joint j v parts := by
  unfold join
  split
  · cases j <;> simp [joint]
  · cases j
    · exact allHold_eq v parts
    · exact anyHolds_eq v parts

/-- Parts that are joined by `and` hold when each of them does. -/
theorem all_joinAny? (v : Atom → Bool) (parts : List Condition) :
    (joinAny? .and parts).all (holds v) = parts.all (holds v) := by
  cases parts with
  | nil => rfl
  | cons c rest => exact holds_join .and v (c :: rest)

theorem any_joinAny? (v : Atom → Bool) (parts : List Condition) :
    (joinAny? .or parts).any (holds v) = parts.any (holds v) := by
  cases parts with
  | nil => rfl
  | cons c rest => exact holds_join .or v (c :: rest)

theorem map_joinAny? (j : Combinator) (v : Atom → Bool) (parts : List Condition) :
    (joinAny? j parts).map (holds v) = if parts = [] then none else some (joint j v parts) := by
  cases parts with
  | nil => rfl
  | cons c rest => simp [joinAny?, holds_join]

theorem isSome_joinAny? (j : Combinator) (parts : List Condition) :
    (joinAny? j parts).isSome = !parts.isEmpty := by
  cases parts <;> rfl

end Condition

def Combinator.word : Combinator → String
  | and => "and"
  | or => "or"

def Expression.Token.source : Token → List Char
  | .word w => w.toList
  | .quoted s => (Literal.quote s).toList
  | .symbol s => s.text.toList
  | .openParen => ['(']
  | .closeParen => [')']
  | .comma => [',']

namespace Expression.Token

def isValue : Token → Bool
  | word _ | quoted _ => true
  | _ => false

def IsOperand : Token → Prop
  | word w => IsWord w.toList
  | quoted _ => True
  | _ => False

theorem IsOperand.isValue {t : Token} (h : t.IsOperand) : t.isValue = true := by
  cases t <;> first | rfl | exact h.elim

end Expression.Token

namespace Atom

def source (a : Atom) : List Char :=
  let operator := a.operator.keyword.toList
  if a.operator.isCall then
    operator ++ '(' :: (a.path.toList ++ ',' :: (a.operand.source ++ [')']))
  else a.path.toList ++ ' ' :: (operator ++ ' ' :: a.operand.source)

def tokens (a : Atom) : List Token :=
  let operator := Token.word a.operator.keyword
  if a.operator.isCall then
    [operator, .openParen, .word a.path, .comma, a.operand, .closeParen]
  else [.word a.path, operator, a.operand]

end Atom

namespace Condition

mutual

/-- The text of a condition; parts are joined in parentheses. -/
def source : Condition → List Char
  | atom a => a.source
  | not c => "not ".toList ++ c.source
  | joined _ [] => ['(', ')']
  | joined j (c :: rest) => '(' :: (c.source ++ (moreSource j rest ++ [')']))

def moreSource (j : Combinator) : List Condition → List Char
  | [] => []
  | c :: rest => j.separator.toList ++ (c.source ++ moreSource j rest)

end

mutual

def tokens : Condition → List Token
  | atom a => a.tokens
  | not c => .word "not" :: c.tokens
  | joined _ [] => [.openParen, .closeParen]
  | joined j (c :: rest) => .openParen :: (c.tokens ++ (moreTokens j rest ++ [.closeParen]))

def moreTokens (j : Combinator) : List Condition → List Token
  | [] => []
  | c :: rest => .word j.word :: (c.tokens ++ moreTokens j rest)

end

/-- Conditions that can be told by their text: what stands for a path or an operand is one token, a
negation is none of a bare comparison, and a joint has several parts. -/
inductive Proper : Condition → Prop
  | atom : a.operator.isAtomic = true → IsWord a.path.toList → a.operand.IsOperand →
      Proper (.atom a)
  | call : a.operator.isCall = true → Proper (.atom a) → Proper (.not (.atom a))
  | joined : 1 < parts.length → (∀ c ∈ parts, Proper c) → Proper (.joined j parts)

end Condition

namespace Expression

/-- Whether a value can end in front of these characters. -/
def Apart (left : List Char) : Prop := ∀ c ∈ left.head?, isWordChar c = false ∧ c ≠ '\''

theorem Token.IsOperand.spelled {t : Token} {left : List Char} (h : t.IsOperand)
    (apart : Apart left) : Spelled t t.source left := by
  cases t with
  | word w =>
    have spelled := Spelled.word h fun c head => (apart c head).1
    rwa [String.ofList_toList] at spelled
  | quoted s =>
    have noQuote : left.head? ≠ some '\'' := fun head => (apart _ head).2 rfl
    have spelled : Spelled (.quoted (String.ofList s.toList)) _ left := Spelled.single noQuote
    simpa [Token.source, Literal.quote] using spelled
  | symbol | openParen | closeParen | comma => exact h.elim

theorem Scans.word {w : String} {cs rest : List Char} {ts : List Token} {c : Char}
    (isWord : IsWord w.toList) (apart : isWordChar c = false) (tail : Scans (c :: cs) ts rest) :
    Scans (w.toList ++ c :: cs) (.word w :: ts) rest := by
  have spelled : Spelled _ _ (c :: cs) := Spelled.word isWord (by simpa using apart)
  rw [String.ofList_toList] at spelled
  exact .token spelled tail

theorem Scans.space {cs rest : List Char} {ts : List Token} (h : Scans cs ts rest) :
    Scans (' ' :: cs) ts rest :=
  .blank (by decide) h

end Expression

theorem Operator.keyword_isWord (o : Operator) : IsWord o.keyword.toList := by
  cases o <;> decide

theorem Combinator.word_isWord (j : Combinator) : IsWord j.word.toList := by
  cases j <;> decide

theorem Atom.scans {a : Atom} (path : IsWord a.path.toList) (operand : a.operand.IsOperand)
    {left : List Char} (apart : Expression.Apart left) :
    Scans (a.source ++ left) a.tokens left := by
  have keyword := a.operator.keyword_isWord
  cases call : a.operator.isCall with
  | true =>
    have closing : Expression.Apart (')' :: left) := by simp [Expression.Apart]; decide
    have operand := operand.spelled closing
    have argument := Scans.token operand (.token .closeParen .done)
    have arguments := Scans.word path (c := ',') (by decide) (.token .comma argument)
    have whole := Scans.word keyword (c := '(') (by decide) (.token .openParen arguments)
    simpa [Atom.source, Atom.tokens, call] using whole
  | false =>
    have operand := Scans.token (operand.spelled apart) .done
    have behind := Scans.word keyword (c := ' ') (by decide) operand.space
    have whole := Scans.word path (c := ' ') (by decide) behind.space
    simpa [Atom.source, Atom.tokens, call] using whole

namespace Condition

theorem scans_more {j : Combinator} {parts : List Condition} {left : List Char}
    (each : ∀ c ∈ parts, ∀ left, Expression.Apart left → Scans (c.source ++ left) c.tokens left)
    (apart : Expression.Apart left) :
    Expression.Apart (moreSource j parts ++ left) ∧
      Scans (moreSource j parts ++ left) (moreTokens j parts) left := by
  induction parts with
  | nil => exact ⟨apart, .done⟩
  | cons c rest ih =>
    obtain ⟨apartRest, scansRest⟩ := ih fun d member => each d (List.mem_cons_of_mem c member)
    have part := each c (by simp) (moreSource j rest ++ left) apartRest
    have behind := Scans.word j.word_isWord (c := ' ') (by decide) (part.append scansRest).space
    have separator : j.separator.toList = ' ' :: (j.word.toList ++ [' ']) := by cases j <;> rfl
    refine ⟨?_, ?_⟩
    · simp [Expression.Apart, moreSource, separator]
      decide
    · simpa [moreSource, moreTokens, separator] using behind.space

theorem Proper.scans {c : Condition} (h : Proper c) {left : List Char}
    (apart : Expression.Apart left) : Scans (c.source ++ left) c.tokens left := by
  induction h generalizing left with
  | atom _ path operand => exact Atom.scans path operand apart
  | @call a _ _ ih =>
    have isWord : IsWord "not".toList := by decide
    have negated := Scans.word isWord (c := ' ') (by decide) (ih apart).space
    simpa [source, tokens] using negated
  | @joined parts j several each ih =>
    obtain ⟨c, rest, rfl⟩ := List.exists_cons_of_length_pos (Nat.zero_lt_of_lt several)
    have closing : Expression.Apart (')' :: left) := by simp [Expression.Apart]; decide
    obtain ⟨apartRest, scansRest⟩ := scans_more (j := j)
      (fun d member _ => ih d (List.mem_cons_of_mem c member)) closing
    have parts := (ih c (by simp) apartRest).append scansRest
    have whole := Scans.token .openParen (parts.append (.token .closeParen .done))
    simpa [source, tokens] using whole

end Condition
end ODataQuery
