import ODataQuery.Proofs.Clause.Condition

/-! Reading clauses: `not` binds tighter than `and`, and `and` tighter than `or`. What was read in
front of an open parenthesis is kept on a stack, so that one pass over the tokens suffices. A proper
condition is read back from its own text. -/
namespace ODataQuery

open Expression (Token IsWord Scans Spelled isWordChar)

def Operator.ofWord? (isCall : Bool) (w : String) : Option Operator :=
  Operator.all.find? fun o => o.isAtomic && o.isCall == isCall && o.keyword == w

namespace Condition

def atom? : List Token → Option (Atom × List Token)
  | .word function :: .openParen :: .word path :: .comma :: operand :: .closeParen :: rest =>
    ((Operator.ofWord? true function).filter fun _ => operand.isValue).map fun o =>
      (⟨o, path, operand⟩, rest)
  | .word path :: .word operator :: operand :: rest =>
    ((Operator.ofWord? false operator).filter fun _ => operand.isValue).map fun o =>
      (⟨o, path, operand⟩, rest)
  | _ => none

theorem atom?_shorter {ts rest : List Token} {a : Atom} (h : atom? ts = some (a, rest)) :
    rest.length < ts.length := by
  unfold atom? at h
  split at h
  · obtain ⟨o, -, same⟩ := Option.map_eq_some_iff.mp h
    cases same
    simp only [List.length_cons]
    omega
  · obtain ⟨o, -, same⟩ := Option.map_eq_some_iff.mp h
    cases same
    simp only [List.length_cons]
    omega
  · cases h

/-- What was read since a parenthesis was opened: the members of the alternative being read, those
before it, and the negations in front of the next member. -/
structure Level where
  alternatives : List Condition := []
  members : List Condition := []
  negations : Nat := 0

namespace Level

def take (l : Level) (c : Condition) : Level :=
  { l with members := l.members ++ [not^[l.negations] c], negations := 0 }

def next (l : Level) : Level :=
  { l with alternatives := l.alternatives ++ [join .and l.members], members := [] }

def condition (l : Level) : Condition := join .or l.next.alternatives

end Level

mutual

/-- Reads a member and goes on; `outer` holds the levels around it, the innermost first. -/
def readMember (l : Level) (outer : List Level) (ts : List Token) : Option Condition :=
  match _h : atom? ts with
  | some (a, rest) => readJoint (l.take (.atom a)) outer rest
  | none =>
    match ts with
    | .openParen :: rest => readMember {} (l :: outer) rest
    | t :: rest =>
      if t.isKeyword "not" then readMember { l with negations := l.negations + 1 } outer rest
      else none
    | [] => none
termination_by ts.length
decreasing_by
  · exact atom?_shorter _h
  · simp
  · simp

def readJoint (l : Level) (outer : List Level) (ts : List Token) : Option Condition :=
  match ts, outer with
  | [], [] => some l.condition
  | .closeParen :: rest, around :: outer => readJoint (around.take l.condition) outer rest
  | t :: rest, outer =>
    if t.isKeyword "and" then readMember l outer rest
    else if t.isKeyword "or" then readMember l.next outer rest
    else none
  | [], _ :: _ => none
termination_by ts.length
decreasing_by
  all_goals simp

end

/-- The condition that some tokens say; no tokens say nothing. -/
def read? (ts : List Token) : Option (Option Condition) :=
  if ts.isEmpty then some none else (readMember {} [] ts).map some

theorem tokens_ne_nil (c : Condition) : c.tokens ≠ [] := by
  cases c with
  | atom a => cases call : a.operator.isCall <;> simp [tokens, Atom.tokens, call]
  | not c => simp [tokens]
  | joined j parts => cases parts <;> simp [tokens]

end Condition

theorem Operator.ofWord?_keyword {o : Operator} (h : o.isAtomic = true) :
    Operator.ofWord? o.isCall o.keyword = some o := by
  cases o <;> first | rfl | cases h

namespace Condition

theorem atom?_tokens {a : Atom} (atomic : a.operator.isAtomic = true)
    (operand : a.operand.IsOperand) (us : List Token) : atom? (a.tokens ++ us) = some (a, us) := by
  obtain ⟨o, path, t⟩ := a
  have found := Operator.ofWord?_keyword atomic
  have value := operand.isValue
  cases call : o.isCall <;> simp_all [Atom.tokens, atom?]

/-- A negation is not taken for a path: no comparison is spelled like a function. -/
theorem atom?_not {a : Atom} (call : a.operator.isCall = true) (us : List Token) :
    atom? (.word "not" :: (a.tokens ++ us)) = none := by
  have none : Operator.ofWord? false a.operator.keyword = none := by
    revert call
    cases a.operator <;> decide
  simp [Atom.tokens, call, atom?, none]

theorem readMember_atom {l : Level} {outer : List Level} {ts rest : List Token} {a : Atom}
    (h : atom? ts = some (a, rest)) :
    readMember l outer ts = readJoint (l.take (.atom a)) outer rest := by
  rw [readMember]
  split
  · rename_i found
    rw [h] at found
    cases found
    rfl
  · rename_i found
    rw [h] at found
    cases found

theorem readMember_open (l : Level) (outer : List Level) (ts : List Token) :
    readMember l outer (.openParen :: ts) = readMember {} (l :: outer) ts := by
  rw [readMember]
  simp [atom?]

theorem readMember_not {l : Level} {outer : List Level} {ts : List Token}
    (h : atom? (.word "not" :: ts) = none) :
    readMember l outer (.word "not" :: ts) =
      readMember { l with negations := l.negations + 1 } outer ts := by
  rw [readMember]
  split
  · rename_i found
    rw [h] at found
    cases found
  · simp [Token.isKeyword, Text.equalsIgnoringCase]

/-- The level in which the member behind this combinator is read. -/
def Level.behind (l : Level) : Combinator → Level
  | .and => l
  | .or => l.next

theorem readJoint_word (j : Combinator) (l : Level) (outer : List Level) (ts : List Token) :
    readJoint l outer (.word j.word :: ts) = readMember (l.behind j) outer ts := by
  rw [readJoint]
  · cases j <;> simp [Token.isKeyword, Combinator.word, Level.behind, Text.equalsIgnoringCase]
  · intro _ _ _ close
    cases close

theorem readJoint_close (l around : Level) (outer : List Level) (ts : List Token) :
    readJoint l (around :: outer) (.closeParen :: ts) =
      readJoint (around.take l.condition) outer ts := by
  rw [readJoint]

def Level.takeAll (l : Level) (j : Combinator) (parts : List Condition) : Level :=
  parts.foldl (fun l c => (l.behind j).take c) l

theorem Level.members_takeAll (l : Level) (parts : List Condition) (none : l.negations = 0) :
    l.takeAll .and parts = { l with members := l.members ++ parts } := by
  induction parts generalizing l with
  | nil => simp [takeAll]
  | cons c rest ih =>
    have step := ih (l.take c) rfl
    simpa [takeAll, behind, take, none] using step

theorem Level.alternatives_takeAll (l : Level) (m : Condition) (parts : List Condition)
    (none : l.negations = 0) (single : l.members = [m]) :
    ((l.takeAll .or parts).next).alternatives = l.alternatives ++ m :: parts := by
  induction parts generalizing l m with
  | nil => simp [takeAll, next, single, join]
  | cons c rest ih =>
    have step := ih (l.next.take c) c rfl (by simp [next, take, none])
    simpa [takeAll, behind, next, take, none, single, join] using step

theorem Level.condition_takeAll (j : Combinator) (c : Condition) (parts : List Condition) :
    ((({} : Level).take c).takeAll j parts).condition = join j (c :: parts) := by
  cases j with
  | and =>
    rw [members_takeAll _ _ rfl]
    simp [condition, next, take, join]
  | or =>
    rw [condition, alternatives_takeAll _ c _ rfl rfl]
    rfl

theorem readJoint_parts {parts : List Condition} (j : Combinator)
    (each : ∀ c ∈ parts, ∀ l outer us,
      readMember l outer (c.tokens ++ us) = readJoint (l.take c) outer us)
    (l : Level) (outer : List Level) (us : List Token) :
    readJoint l outer (moreTokens j parts ++ us) = readJoint (l.takeAll j parts) outer us := by
  induction parts generalizing l with
  | nil => rfl
  | cons c rest ih =>
    rw [moreTokens, List.cons_append, List.append_assoc, readJoint_word, each c (by simp),
      ih fun d member => each d (by simp [member])]
    rfl

/-- A proper condition is read as a member of what surrounds it. -/
theorem Proper.readMember {c : Condition} (h : Proper c) (l : Level) (outer : List Level)
    (us : List Token) :
    readMember l outer (c.tokens ++ us) = readJoint (l.take c) outer us := by
  induction h generalizing l outer us with
  | atom atomic _ operand => exact readMember_atom (atom?_tokens atomic operand us)
  | @call a call _ ih =>
    have noAtom : atom? (.word "not" :: ((Condition.atom a).tokens ++ us)) = none :=
      atom?_not call us
    rw [tokens, List.cons_append, readMember_not noAtom, ih]
    rfl
  | @joined parts j several each ih =>
    obtain ⟨c, rest, rfl⟩ := List.exists_cons_of_length_pos (Nat.zero_lt_of_lt several)
    have joins : join j (c :: rest) = .joined j (c :: rest) := by
      cases rest with
      | nil => simp at several
      | cons => rfl
    rw [tokens, List.cons_append, readMember_open, List.append_assoc, List.append_assoc,
      ih c (by simp), readJoint_parts j fun d member => ih d (by simp [member]),
      List.singleton_append, readJoint_close, Level.condition_takeAll, joins]

theorem read?_parts {j : Combinator} {c : Condition} {parts : List Condition}
    (proper : ∀ d ∈ c :: parts, Proper d) :
    read? (c.tokens ++ moreTokens j parts) = some (some (join j (c :: parts))) := by
  have first := (proper c (by simp)).readMember {} [] (moreTokens j parts)
  have each : ∀ d ∈ parts, Proper d := fun d member => proper d (List.mem_cons_of_mem c member)
  have more := readJoint_parts j (fun d member => (each d member).readMember)
    (({} : Level).take c) [] []
  rw [List.append_nil, readJoint, Level.condition_takeAll] at more
  have something : (c.tokens ++ moreTokens j parts).isEmpty = false := by
    simp [c.tokens_ne_nil]
  rw [read?, something, first, more]
  rfl

theorem Proper.read?_tokens {c : Condition} (h : Proper c) : read? c.tokens = some (some c) := by
  have alone : read? (c.tokens ++ moreTokens .and []) = some (some (join .and [c])) :=
    read?_parts (by simpa using h)
  simpa [moreTokens, join] using alone

/-- Without parentheses `not` binds before `and`, and `and` before `or`. -/
example : read? [.word "a", .word "eq", .word "1", .word "or", .word "b", .word "eq", .word "2",
      .word "and", .word "not", .word "startswith", .openParen, .word "c", .comma, .quoted "x",
      .closeParen] =
    some (some (.joined .or [.atom ⟨.equal, "a", .word "1"⟩,
      .joined .and [.atom ⟨.equal, "b", .word "2"⟩,
        .not (.atom ⟨.startsWith, "c", .quoted "x"⟩)]])) := by
  decide +kernel

end Condition
end ODataQuery
