import ODataQuery.Proofs.Expression.Splitting

/-! The grammar of expressions, as relations between tokens and what they are written for. Clauses
of the grammar become filters when their operators fit their values; the reader takes just those.

    expression ::= clause (("and" | "or") clause)*
    clause     ::= field phrase
    phrase     ::= operator literal | "between" literal "and" literal | "isempty" | "isnotempty"
                 | ["not"] "in" "(" literal ("," literal)* ")" | "not" "contains" literal
                 | ("last" | "next") amount unit
-/
namespace ODataQuery.Expression

inductive IsLiteral : Token → Literal → Prop
  | quoted (s : String) : IsLiteral (.quoted s) (.text s)
  | word (w : String) : IsLiteral (.word w) (literalOfWord w)

def operatorTerminals : List (String × Operator) :=
  [("eq", .equal), ("ne", .notEqual), ("gt", .greater), ("ge", .greaterOrEqual), ("lt", .less),
   ("le", .lessOrEqual), ("=", .equal), ("==", .equal), ("!=", .notEqual), ("<>", .notEqual),
   (">", .greater), (">=", .greaterOrEqual), ("<", .less), ("<=", .lessOrEqual),
   ("contains", .contains), ("notcontains", .notContains), ("startswith", .startsWith),
   ("endswith", .endsWith)]

def Token.Spells (terminal : String) : Token → Prop
  | .word w => Text.equalsIgnoringCase w terminal = true
  | .symbol s => s.text = terminal
  | .quoted _ | .openParen | .closeParen | .comma => False

def IsOperator (t : Token) (o : Operator) : Prop :=
  ∃ terminal, (terminal, o) ∈ operatorTerminals ∧ t.Spells terminal

inductive MoreOfList : List Token → List Literal → Prop
  | close : MoreOfList [.closeParen] []
  | more : IsLiteral t v → MoreOfList ts vs → MoreOfList (.comma :: t :: ts) (v :: vs)

inductive IsList : List Token → List Literal → Prop
  | values : IsLiteral t v → MoreOfList ts vs → IsList (.openParen :: t :: ts) (v :: vs)

def largestAmount : Nat := 4294967295

inductive Phrase
  | compare (operator : Operator) (value : Literal)
  | between (low high : Literal)
  | isEmpty
  | isNotEmpty
  | among (excluded : Bool) (values : List Literal)
  | relative (mode : DateMode) (amount : Nat) (unit : String)

inductive IsPhrase : List Token → Phrase → Prop
  | compare : IsOperator t o → IsLiteral u v → IsPhrase [t, u] (.compare o v)
  | between : t.isKeyword "between" = true → IsLiteral u low → a.isKeyword "and" = true →
      IsLiteral w high → IsPhrase [t, u, a, w] (.between low high)
  | isEmpty : t.isKeyword "isempty" = true → IsPhrase [t] .isEmpty
  | isNotEmpty : t.isKeyword "isnotempty" = true → IsPhrase [t] .isNotEmpty
  | among : t.isKeyword "in" = true → IsList ts vs → IsPhrase (t :: ts) (.among false vs)
  | notAmong : n.isKeyword "not" = true → t.isKeyword "in" = true → IsList ts vs →
      IsPhrase (n :: t :: ts) (.among true vs)
  | notContains : n.isKeyword "not" = true → t.isKeyword "contains" = true → IsLiteral u v →
      IsPhrase [n, t, u] (.compare .notContains v)
  | last : t.isKeyword "last" = true → natWithin? largestAmount amount = some n →
      IsPhrase [t, .word amount, .word unit] (.relative .last n unit)
  | next : t.isKeyword "next" = true → natWithin? largestAmount amount = some n →
      IsPhrase [t, .word amount, .word unit] (.relative .next n unit)

structure Written where
  field : String
  phrase : Phrase

inductive IsWritten : List Token → Written → Prop
  | clause : IsPhrase ts p → IsWritten (.word field :: ts) ⟨field, p⟩

inductive MoreWritten (j : Combinator) : List Token → List Written → Prop
  | done : MoreWritten j [] []
  | more : t.isKeyword j.word = true → IsWritten ts w → MoreWritten j rest ws →
      MoreWritten j (t :: (ts ++ rest)) (w :: ws)

/-- Clauses with one combinator between them; a single clause may be taken for either. -/
inductive IsExpression (j : Combinator) : List Token → List Written → Prop
  | clauses : IsWritten ts w → MoreWritten j rest ws → IsExpression j (ts ++ rest) (w :: ws)

/-- The operators that a value of this kind is compared by. -/
def comparedBy : Literal → List Operator
  | .text _ => Operator.forText
  | .number _ | .instant _ =>
    [.equal, .notEqual, .greater, .greaterOrEqual, .less, .lessOrEqual]
  | .boolean _ | .guid _ | .null => [.equal, .notEqual]

namespace Phrase

/-- The operator fits the value, bounds are of one kind with an order, and the unit is known. -/
def Typed : Phrase → Prop
  | compare o v => o ∈ comparedBy v
  | between (.number _) (.number _) | between (.instant _) (.instant _) => True
  | between _ _ => False
  | relative _ _ unit => (TimeUnit.ofText? unit).isSome
  | isEmpty | isNotEmpty | among _ _ => True

/-- Comparing with null asks whether a field is empty. -/
def operator : Phrase → Operator
  | compare .equal .null | isEmpty => .isEmpty
  | compare .notEqual .null | isNotEmpty => .isNotEmpty
  | compare o _ => o
  | between _ _ | relative _ _ _ => .between
  | among excluded _ => if excluded then .notEqual else .equal

/-- The values of the filter; a phrase that is not typed has none. -/
def payload : Phrase → Payload
  | compare _ (.text s) => .text (if s.isEmpty then none else some s)
  | compare _ (.number x) => .numbers (some x) none
  | compare _ (.instant t) => .date { value := some t }
  | compare _ .null | isEmpty | isNotEmpty => .text none
  | compare _ v => .choice [v]
  | between (.number low) (.number high) => .numbers (some low) (some high)
  | between (.instant low) (.instant high) =>
    .date { mode := .range, range := ⟨some low, some high⟩ }
  | between _ _ => .text none
  | among _ values => .choice (Payload.selection values)
  | relative mode amount unit =>
    .date { mode, unit := (TimeUnit.ofText? unit).getD .day, amount := some amount }

end Phrase

namespace Written

def operator (w : Written) : Operator := w.phrase.operator

def payload (w : Written) : Payload := w.phrase.payload

def filter (w : Written) : Filter :=
  ⟨.nil, w.field, none, false, none, w.operator, w.payload⟩

end Written

theorem literalOfToken_eq_ok_iff {t : Token} {v : Literal} :
    literalOfToken t = .ok v ↔ IsLiteral t v := by
  constructor
  · intro h
    cases t with
    | quoted s => cases h; exact .quoted s
    | word w => cases h; exact .word w
    | symbol | openParen | closeParen | comma => cases h
  · rintro (_ | _) <;> rfl

theorem literal_iff {ts rest : List Token} {v : Literal} :
    literal ts = .ok (v, rest) ↔ ∃ t, ts = t :: rest ∧ IsLiteral t v := by
  simp only [literal_eq_ok_iff, literalOfToken_eq_ok_iff]

theorem equalsIgnoringCase_iff {w keyword : String}
    (lower : keyword.toList.map Char.toLower = keyword.toList) :
    Text.equalsIgnoringCase w keyword = true ↔ Text.asciiLower w = keyword := by
  rw [Text.equalsIgnoringCase, beq_iff_eq, lower, Text.asciiLower, ← String.toList_inj,
    String.toList_ofList]

theorem isKeyword_iff {t : Token} {keyword : String}
    (lower : keyword.toList.map Char.toLower = keyword.toList) :
    t.isKeyword keyword = true ↔ ∃ w, t = .word w ∧ Text.asciiLower w = keyword := by
  cases t <;> simp [Token.isKeyword, equalsIgnoringCase_iff lower]

theorem lower_operatorTerminals :
    ∀ entry ∈ operatorTerminals, entry.1.toList.map Char.toLower = entry.1.toList := by
  decide

/-- The operators of the terminals are those that are known by a text and take a value. -/
theorem ofText?_iff_terminal {w : String} {o : Operator} :
    Operator.ofText? w = some o ∧ o.isNullary = false ∧ o ≠ .between ↔
      (Text.asciiLower w, o) ∈ operatorTerminals := by
  constructor
  · rintro ⟨known, takes, notBetween⟩
    unfold Operator.ofText? at known
    split at known
    case h_9 =>
      have found := List.find?_some known
      rw [← beq_iff_eq.mp found]
      cases o <;> first | (cases takes; done) | (exact absurd rfl notBetween) | decide
    all_goals
      rename_i lower
      cases known
      rw [lower]
      decide
  · intro member
    unfold Operator.ofText?
    generalize Text.asciiLower w = lower at member
    simp only [operatorTerminals, List.mem_cons, Prod.mk.injEq, List.not_mem_nil,
      or_false] at member
    rcases member with member | member | member | member | member | member | member | member |
      member | member | member | member | member | member | member | member | member | member <;>
      obtain ⟨rfl, rfl⟩ := member <;> decide

theorem isOperator_word_iff {w : String} {o : Operator} :
    IsOperator (.word w) o ↔
      Operator.ofText? w = some o ∧ o.isNullary = false ∧ o ≠ .between := by
  rw [ofText?_iff_terminal]
  constructor
  · rintro ⟨terminal, member, spells⟩
    have same := (equalsIgnoringCase_iff (lower_operatorTerminals _ member)).mp spells
    rwa [same]
  · intro member
    exact ⟨_, member, (equalsIgnoringCase_iff (lower_operatorTerminals _ member)).mpr rfl⟩

theorem isOperator_symbol_iff {s : Symbol} {o : Operator} :
    IsOperator (.symbol s) o ↔ s.operator = o := by
  constructor
  · rintro ⟨terminal, member, spells⟩
    cases spells
    revert member
    cases s <;> cases o <;> decide
  · rintro rfl
    refine ⟨s.text, ?_, rfl⟩
    cases s <;> decide

theorem moreLiterals_iff {ts rest : List Token} {vs : List Literal} :
    moreLiterals ts = .ok (vs, rest) ↔ ∃ used, ts = used ++ rest ∧ MoreOfList used vs := by
  constructor
  · intro h
    fun_induction moreLiterals ts generalizing vs with
    | case1 => cases h
    | case2 => cases h; exact ⟨_, rfl, .close⟩
    | case3 => cases h
    | case4 t more ih =>
      obtain ⟨v, isLiteral, ⟨vs, left⟩, read, same⟩ := by simpa only [bind_ok_iff] using h
      cases same
      obtain ⟨used, rfl, list⟩ := ih read
      exact ⟨_, rfl, .more (literalOfToken_eq_ok_iff.mp isLiteral) list⟩
    | case5 => cases h
  · rintro ⟨used, rfl, list⟩
    induction list with
    | close => rfl
    | more isLiteral _ ih =>
      simp only [List.cons_append, moreLiterals, bind_ok_iff]
      exact ⟨_, literalOfToken_eq_ok_iff.mpr isLiteral, _, ih, rfl⟩

theorem literals_iff {ts rest : List Token} {vs : List Literal} :
    literals ts = .ok (vs, rest) ↔ ∃ used, ts = used ++ rest ∧ IsList used vs := by
  simp only [literals, bind_ok_iff, expect_eq_ok_iff]
  constructor
  · rintro ⟨_, ⟨t, rfl, isOpen⟩, ⟨v, _⟩, first, ⟨vs, left⟩, more, same⟩
    cases same
    obtain ⟨u, rfl, isLiteral⟩ := literal_iff.mp first
    obtain ⟨used, rfl, list⟩ := moreLiterals_iff.mp more
    obtain rfl := of_decide_eq_true isOpen
    exact ⟨_, rfl, .values isLiteral list⟩
  · rintro ⟨_, rfl, @⟨t, v, used, vs, isLiteral, list⟩⟩
    exact ⟨_, ⟨_, rfl, rfl⟩, _, literal_iff.mpr ⟨t, rfl, isLiteral⟩, _,
      moreLiterals_iff.mpr ⟨used, rfl, list⟩, rfl⟩

theorem relative_iff {ts rest : List Token} {n : Nat} {u : TimeUnit} :
    relative ts = .ok ((n, u), rest) ↔ ∃ amount unit, ts = .word amount :: .word unit :: rest ∧
      natWithin? largestAmount amount = some n ∧ TimeUnit.ofText? unit = some u := by
  simp only [relative, bind_ok_iff]
  constructor
  · rintro ⟨⟨t, _⟩, first, n, isAmount, ⟨t', _⟩, second, u, isUnit, same⟩
    cases same
    obtain rfl := next_eq_ok_iff.mp first
    obtain rfl := next_eq_ok_iff.mp second
    cases t with
    | word amount =>
      cases t' with
      | word unit =>
        refine ⟨amount, unit, rfl, ?_, ?_⟩
        · cases known : natWithin? largestAmount amount <;>
            simp_all [amountOfToken, largestAmount]
        · cases known : TimeUnit.ofText? unit <;> simp_all [unitOfToken]
      | quoted | symbol | openParen | closeParen | comma => cases isUnit
    | quoted | symbol | openParen | closeParen | comma => cases isAmount
  · rintro ⟨amount, unit, rfl, isAmount, isUnit⟩
    refine ⟨_, rfl, n, ?_, _, rfl, u, ?_, rfl⟩
    · rw [largestAmount] at isAmount
      simp [amountOfToken, isAmount]
    · simp [unitOfToken, isUnit]

theorem text_eq_ok_iff {field s : String} {o : Operator} {f : Filter} :
    Filter.text field o s = .ok f ↔ o ∈ Operator.forText ∧
      f = ⟨.nil, field, none, false, none, o, .text (if s.isEmpty then none else some s)⟩ :=
  Filter.make_ok_iff

theorem choice_eq_ok_iff {field : String} {o : Operator} {vs : List Literal} {f : Filter} :
    Filter.choice field o vs = .ok f ↔ o ∈ Operator.forChoice ∧
      f = ⟨.nil, field, none, false, none, o, .choice (Payload.selection vs)⟩ :=
  Filter.make_ok_iff

/-- The operators that are left of those a kind of values has, when it takes a value and does not
look into a text. -/
theorem comparedBy_ordered {o : Operator} (takes : o.isNullary = false)
    (notBetween : o ≠ .between) :
    o ∈ [Operator.equal, .notEqual, .greater, .greaterOrEqual, .less, .lessOrEqual] ↔
      o.isTextSearch = false ∧ o ∈ Operator.forOrdered := by
  revert takes notBetween
  cases o <;> decide

theorem comparedBy_choice {o : Operator} (takes : o.isNullary = false) :
    o ∈ [Operator.equal, .notEqual] ↔ o.isTextSearch = false ∧ o ∈ Operator.forChoice := by
  revert takes
  cases o <;> decide

theorem operator_compare {o : Operator} {v : Literal} (valued : v ≠ .null) :
    (Phrase.compare o v).operator = o := by
  cases v <;> first | exact absurd rfl valued | (cases o <;> rfl)

/-- A comparison is read when its operator fits its value. -/
theorem comparison_iff {field : String} {o : Operator} {v : Literal} {f : Filter}
    (takes : o.isNullary = false) (notBetween : o ≠ .between) :
    comparison field o v = .ok f ↔
      (Phrase.compare o v).Typed ∧ f = Written.filter ⟨field, .compare o v⟩ := by
  have ordered := comparedBy_ordered takes notBetween
  have chosen := comparedBy_choice takes
  rw [Written.filter, Written.operator, Phrase.Typed]
  cases v with
  | text s =>
    rw [operator_compare (by simp)]
    exact text_eq_ok_iff
  | null =>
    cases o <;> first
      | (cases takes; done)
      | simp [comparison, text_eq_ok_iff, comparedBy, Written.payload, Phrase.operator,
          Phrase.payload, Operator.forText]
  | number x | instant t =>
    rw [operator_compare (by simp), comparedBy, ordered, comparison.eq_def]
    cases search : o.isTextSearch with
    | true => simp
    | false =>
      simp only [true_and, Bool.false_eq_true, if_false]
      exact Filter.make_ok_iff
  | boolean b | guid g =>
    rw [operator_compare (by simp), comparedBy, chosen, comparison.eq_def]
    cases search : o.isTextSearch with
    | true => simp
    | false =>
      simp only [true_and, Bool.false_eq_true, if_false]
      exact choice_eq_ok_iff

theorem rangeBetween_iff {field : String} {low high : Literal} {f : Filter} :
    rangeBetween field low high = .ok f ↔
      (Phrase.between low high).Typed ∧ f = Written.filter ⟨field, .between low high⟩ := by
  cases low <;> cases high <;>
    simp [rangeBetween, Phrase.Typed, Written.filter, Written.operator, Written.payload,
      Phrase.operator, Phrase.payload, Filter.between, Filter.dateRange, eq_comm]

theorem compared_iff {field : String} {o : Operator} {ts rest : List Token} {f : Filter}
    (takes : o.isNullary = false ∧ o ≠ .between) :
    (do let (value, left) ← literal ts
        return (← comparison field o value, left)) = Except.ok (f, rest) ↔
      ∃ u v, ts = u :: rest ∧ IsLiteral u v ∧ (Phrase.compare o v).Typed ∧
        f = Written.filter ⟨field, .compare o v⟩ := by
  simp only [bind_ok_iff]
  constructor
  · rintro ⟨⟨v, _⟩, value, _, made, same⟩
    cases same
    obtain ⟨u, rfl, isLiteral⟩ := literal_iff.mp value
    exact ⟨u, v, rfl, isLiteral, (comparison_iff takes.1 takes.2).mp made⟩
  · rintro ⟨u, v, rfl, isLiteral, made⟩
    exact ⟨(v, rest), literal_iff.mpr ⟨u, rfl, isLiteral⟩, _,
      (comparison_iff takes.1 takes.2).mpr made, rfl⟩

/-- A list of literals, all of them taken or all of them excluded. -/
theorem listed_iff {field : String} {excluded : Bool} {ts rest : List Token} {f : Filter} :
    (do let (values, left) ← literals ts
        return (← Filter.choice field (if excluded then .notEqual else .equal) values, left)) =
        Except.ok (f, rest) ↔
      ∃ used vs, ts = used ++ rest ∧ IsList used vs ∧
        f = Written.filter ⟨field, .among excluded vs⟩ := by
  have allowed : (if excluded then .notEqual else .equal) ∈ Operator.forChoice := by
    cases excluded <;> decide
  simp only [bind_ok_iff]
  constructor
  · rintro ⟨⟨vs, _⟩, list, _, made, same⟩
    cases same
    obtain ⟨used, rfl, isList⟩ := literals_iff.mp list
    exact ⟨used, vs, rfl, isList, (choice_eq_ok_iff.mp made).2⟩
  · rintro ⟨used, vs, rfl, isList, made⟩
    exact ⟨(vs, rest), literals_iff.mpr ⟨used, rfl, isList⟩, _,
      choice_eq_ok_iff.mpr ⟨allowed, made⟩, rfl⟩

theorem takes_or_lower {w : String} {o : Operator} (known : Operator.ofText? w = some o) :
    (o.isNullary = false ∧ o ≠ .between) ∨ Text.asciiLower w = "isempty" ∨
      Text.asciiLower w = "isnotempty" ∨ Text.asciiLower w = "between" := by
  unfold Operator.ofText? at known
  split at known
  case h_9 =>
    have found := List.find?_some known
    rw [← beq_iff_eq.mp found]
    cases o <;> decide
  all_goals
    cases known
    exact .inl ⟨rfl, by simp⟩

theorem afterWord_operator {field w : String} {o : Operator} (ts : List Token)
    (terminal : IsOperator (.word w) o) :
    afterWord field w ts = literal ts >>= fun (value, left) =>
      comparison field o value >>= fun f => pure (f, left) := by
  have operator := isOperator_word_iff.mp terminal
  have member := ofText?_iff_terminal.mp operator
  unfold afterWord
  split
  case h_8 => rw [operator.1]
  all_goals
    rename_i lower
    rw [lower] at member
    exact absurd member (by cases o <;> decide)

theorem relative_filter {field unit : String} {u : TimeUnit}
    (known : TimeUnit.ofText? unit = some u) (mode : DateMode) (n : Nat) :
    Filter.relative field mode n u = Written.filter ⟨field, .relative mode n unit⟩ := by
  rw [Written.filter, Written.payload, Phrase.payload, known]
  rfl

theorem typed_relative {mode : DateMode} {n : Nat} {unit : String} :
    (Phrase.relative mode n unit).Typed ↔ ∃ u, TimeUnit.ofText? unit = some u :=
  Option.isSome_iff_exists

theorem dated_iff {field : String} {mode : DateMode} {ts rest : List Token} {f : Filter} :
    (do let ((amount, unit), left) ← relative ts
        return (Filter.relative field mode amount unit, left)) = Except.ok (f, rest) ↔
      ∃ amount unit n, ts = .word amount :: .word unit :: rest ∧
        natWithin? largestAmount amount = some n ∧ (Phrase.relative mode n unit).Typed ∧
        f = Written.filter ⟨field, .relative mode n unit⟩ := by
  simp only [bind_ok_iff]
  constructor
  · rintro ⟨⟨⟨n, u⟩, _⟩, read, same⟩
    cases same
    obtain ⟨amount, unit, rfl, isAmount, isUnit⟩ := relative_iff.mp read
    exact ⟨amount, unit, n, rfl, isAmount, typed_relative.mpr ⟨u, isUnit⟩,
      relative_filter isUnit mode n⟩
  · rintro ⟨amount, unit, n, rfl, isAmount, typed, rfl⟩
    obtain ⟨u, isUnit⟩ := typed_relative.mp typed
    rw [← relative_filter isUnit]
    exact ⟨((n, u), rest), relative_iff.mpr ⟨amount, unit, rfl, isAmount, isUnit⟩, rfl⟩

theorem negated_sound {field : String} {n : Token} {ts rest : List Token} {f : Filter}
    (isNot : n.isKeyword "not" = true) (h : negated field ts = .ok (f, rest)) :
    ∃ used p, ts = used ++ rest ∧ IsPhrase (n :: used) p ∧ p.Typed ∧
      f = Written.filter ⟨field, p⟩ := by
  obtain ⟨⟨t, _⟩, first, behind⟩ := bind_ok_iff.mp h
  obtain rfl := next_eq_ok_iff.mp first
  dsimp only at behind
  split at behind
  · rename_i isIn
    obtain ⟨used, vs, rfl, isList, rfl⟩ := (@listed_iff field true _ _ _).mp behind
    exact ⟨t :: used, _, rfl, .notAmong isNot isIn isList, trivial, rfl⟩
  split at behind
  · rename_i isContains
    obtain ⟨u, v, rfl, isLiteral, typed, rfl⟩ := (compared_iff ⟨rfl, by simp⟩).mp behind
    exact ⟨[t, u], _, rfl, .notContains isNot isContains isLiteral, typed, rfl⟩
  · cases behind

theorem negated_in {field : String} {t : Token} {used : List Token} {vs : List Literal}
    (isIn : t.isKeyword "in" = true) (isList : IsList used vs) (rest : List Token) :
    negated field (t :: (used ++ rest)) = .ok (Written.filter ⟨field, .among true vs⟩, rest) := by
  refine bind_ok_iff.mpr ⟨_, rfl, ?_⟩
  dsimp only
  rw [if_pos isIn]
  exact (@listed_iff field true _ _ _).mpr ⟨used, vs, rfl, isList, rfl⟩

theorem negated_contains {field : String} {t u : Token} {v : Literal}
    (isContains : t.isKeyword "contains" = true) (isLiteral : IsLiteral u v)
    (typed : (Phrase.compare .notContains v).Typed) (rest : List Token) :
    negated field (t :: u :: rest) =
      .ok (Written.filter ⟨field, .compare .notContains v⟩, rest) := by
  have notIn : ¬ t.isKeyword "in" = true := by
    intro isIn
    obtain ⟨w, rfl, lower⟩ := (isKeyword_iff (by decide)).mp isIn
    have other := (equalsIgnoringCase_iff (by decide)).mp isContains
    rw [lower] at other
    exact absurd other (by decide)
  refine bind_ok_iff.mpr ⟨_, rfl, ?_⟩
  dsimp only
  rw [if_neg notIn, if_pos isContains]
  exact (compared_iff ⟨rfl, by simp⟩).mpr ⟨u, v, rfl, isLiteral, typed, rfl⟩

theorem afterWord_sound {field word : String} {ts rest : List Token} {f : Filter}
    (h : afterWord field word ts = .ok (f, rest)) :
    ∃ used p, ts = used ++ rest ∧ IsPhrase (.word word :: used) p ∧ p.Typed ∧
      f = Written.filter ⟨field, p⟩ := by
  have isKeyword {keyword : String} (lower : Text.asciiLower word = keyword)
      (plain : keyword.toList.map Char.toLower = keyword.toList) :
      (Token.word word).isKeyword keyword = true := isKeyword_iff plain |>.mpr ⟨word, rfl, lower⟩
  unfold afterWord at h
  split at h
  case h_1 lower =>
    simp only [bind_ok_iff] at h
    obtain ⟨_, made, same⟩ := h
    cases same
    obtain ⟨-, rfl⟩ := text_eq_ok_iff.mp made
    exact ⟨[], _, rfl, .isEmpty (isKeyword lower (by decide)), trivial, rfl⟩
  case h_2 lower =>
    simp only [bind_ok_iff] at h
    obtain ⟨_, made, same⟩ := h
    cases same
    obtain ⟨-, rfl⟩ := text_eq_ok_iff.mp made
    exact ⟨[], _, rfl, .isNotEmpty (isKeyword lower (by decide)), trivial, rfl⟩
  case h_3 lower =>
    simp only [bind_ok_iff] at h
    obtain ⟨⟨low, _⟩, first, _, expected, ⟨high, _⟩, second, _, made, same⟩ := h
    cases same
    obtain ⟨t, rfl, isLow⟩ := literal_iff.mp first
    obtain ⟨a, rfl, isAnd⟩ := expect_eq_ok_iff.mp expected
    obtain ⟨u, rfl, isHigh⟩ := literal_iff.mp second
    obtain ⟨typed, rfl⟩ := rangeBetween_iff.mp made
    exact ⟨[t, a, u], _, rfl, .between (isKeyword lower (by decide)) isLow isAnd isHigh, typed, rfl⟩
  case h_4 lower =>
    obtain ⟨used, vs, rfl, isList, rfl⟩ := (@listed_iff field false _ _ _).mp h
    exact ⟨used, _, rfl, .among (isKeyword lower (by decide)) isList, trivial, rfl⟩
  case h_5 lower => exact negated_sound (isKeyword lower (by decide)) h
  case h_6 lower =>
    obtain ⟨_, _, n, rfl, isAmount, typed, rfl⟩ := dated_iff.mp h
    exact ⟨[_, _], _, rfl, .last (isKeyword lower (by decide)) isAmount, typed, rfl⟩
  case h_7 lower =>
    obtain ⟨_, _, n, rfl, isAmount, typed, rfl⟩ := dated_iff.mp h
    exact ⟨[_, _], _, rfl, .next (isKeyword lower (by decide)) isAmount, typed, rfl⟩
  case h_8 noEmpty noNotEmpty noBetween _ _ _ _ =>
    split at h
    · cases h
    rename_i o known
    have takes : o.isNullary = false ∧ o ≠ .between := by
      refine (takes_or_lower known).resolve_right ?_
      rintro (lower | lower | lower)
      · exact noEmpty lower
      · exact noNotEmpty lower
      · exact noBetween lower
    obtain ⟨u, v, rfl, isLiteral, typed, rfl⟩ := (compared_iff takes).mp h
    exact ⟨[u], _, rfl, .compare (isOperator_word_iff.mpr ⟨known, takes⟩) isLiteral, typed, rfl⟩

theorem afterWord_complete {field word : String} {used : List Token} {p : Phrase}
    (phrase : IsPhrase (.word word :: used) p) (typed : p.Typed) (rest : List Token) :
    afterWord field word (used ++ rest) = .ok (Written.filter ⟨field, p⟩, rest) := by
  have lower {keyword : String} (plain : keyword.toList.map Char.toLower = keyword.toList)
      (h : (Token.word word).isKeyword keyword = true) : Text.asciiLower word = keyword := by
    exact (equalsIgnoringCase_iff plain).mp h
  cases phrase with
  | @compare _ o u v operator isLiteral =>
    rw [afterWord_operator _ operator]
    obtain ⟨-, takes⟩ := isOperator_word_iff.mp operator
    exact (compared_iff takes).mpr ⟨u, v, rfl, isLiteral, typed, rfl⟩
  | between isBetween isLow isAnd isHigh =>
    simp only [afterWord, lower (by decide) isBetween, bind_ok_iff]
    exact ⟨_, literal_iff.mpr ⟨_, rfl, isLow⟩, _, expect_eq_ok_iff.mpr ⟨_, rfl, isAnd⟩, _,
      literal_iff.mpr ⟨_, rfl, isHigh⟩, _, rangeBetween_iff.mpr ⟨typed, rfl⟩, rfl⟩
  | isEmpty is =>
    simp only [afterWord, lower (by decide) is]
    rfl
  | isNotEmpty is =>
    simp only [afterWord, lower (by decide) is]
    rfl
  | among isIn isList =>
    simp only [afterWord, lower (by decide) isIn]
    exact (@listed_iff field false _ _ _).mpr ⟨_, _, rfl, isList, rfl⟩
  | notAmong isNot isIn isList =>
    simp only [afterWord, lower (by decide) isNot]
    exact negated_in isIn isList rest
  | notContains isNot isContains isLiteral =>
    simp only [afterWord, lower (by decide) isNot]
    exact negated_contains isContains isLiteral typed rest
  | last isLast isAmount =>
    simp only [afterWord, lower (by decide) isLast]
    exact dated_iff.mpr ⟨_, _, _, rfl, isAmount, typed, rfl⟩
  | next isNext isAmount =>
    simp only [afterWord, lower (by decide) isNext]
    exact dated_iff.mpr ⟨_, _, _, rfl, isAmount, typed, rfl⟩

theorem Symbol.takes (s : Symbol) : s.operator.isNullary = false ∧ s.operator ≠ .between := by
  cases s <;> decide

theorem clause_sound {ts rest : List Token} {f : Filter} (h : clause ts = .ok (f, rest)) :
    ∃ used w, ts = used ++ rest ∧ IsWritten used w ∧ w.phrase.Typed ∧ f = w.filter := by
  simp only [clause, bind_ok_iff] at h
  obtain ⟨⟨t, _⟩, first, field, isField, ⟨u, _⟩, second, h⟩ := h
  obtain rfl := next_eq_ok_iff.mp first
  obtain rfl := next_eq_ok_iff.mp second
  cases t with
  | quoted | symbol | openParen | closeParen | comma => cases isField
  | word w =>
    cases isField
    cases u with
    | quoted | openParen | closeParen | comma => cases h
    | symbol s =>
      obtain ⟨l, v, rfl, isLiteral, typed, rfl⟩ := (compared_iff s.takes).mp h
      have isOperator : IsOperator (.symbol s) s.operator := isOperator_symbol_iff.mpr rfl
      exact ⟨[_, _, _], _, rfl, .clause (.compare isOperator isLiteral), typed, rfl⟩
    | word word =>
      obtain ⟨used, p, rfl, phrase, typed, rfl⟩ := afterWord_sound h
      exact ⟨_ :: _ :: used, _, rfl, .clause phrase, typed, rfl⟩

theorem exists_word_of_isKeyword {t : Token} {keyword : String} (h : t.isKeyword keyword = true) :
    ∃ w, t = .word w := by
  cases t with
  | word w => exact ⟨w, rfl⟩
  | quoted | symbol | openParen | closeParen | comma => cases h

/-- A phrase begins with a word, or with a symbol that is its operator. -/
theorem IsPhrase.head {ts : List Token} {p : Phrase} (h : IsPhrase ts p) :
    (∃ w more, ts = .word w :: more) ∨
      ∃ s u v, ts = [.symbol s, u] ∧ IsLiteral u v ∧ p = .compare s.operator v := by
  cases h with
  | @compare t o u v isOperator isLiteral =>
    cases t with
    | word w => exact .inl ⟨w, [u], rfl⟩
    | symbol s => exact .inr ⟨s, u, v, rfl, isLiteral, by rw [isOperator_symbol_iff.mp isOperator]⟩
    | quoted | openParen | closeParen | comma =>
      obtain ⟨_, -, spells⟩ := isOperator
      exact spells.elim
  | between is | isEmpty is | isNotEmpty is | among is | notAmong is | notContains is | last is
  | next is =>
    obtain ⟨w, rfl⟩ := exists_word_of_isKeyword is
    exact .inl ⟨w, _, rfl⟩

theorem clause_complete {used : List Token} {w : Written} (written : IsWritten used w)
    (typed : w.phrase.Typed) (rest : List Token) :
    clause (used ++ rest) = .ok (w.filter, rest) := by
  obtain @⟨ts, p, field, phrase⟩ := written
  rcases phrase.head with ⟨word, more, rfl⟩ | ⟨s, u, v, rfl, isLiteral, rfl⟩
  · exact afterWord_complete phrase typed rest
  · exact (compared_iff s.takes).mpr ⟨u, v, rfl, isLiteral, typed, rfl⟩

theorem Phrase.allowed {p : Phrase} (typed : p.Typed) : Filter.Allowed p.operator p.payload := by
  have ordered : ∀ o ∈ [Operator.equal, .notEqual, .greater, .greaterOrEqual, .less, .lessOrEqual],
      o ∈ Operator.forOrdered := by decide
  have chosen : ∀ o ∈ [Operator.equal, .notEqual], o ∈ Operator.forChoice := by decide
  cases p with
  | compare o v =>
    cases v with
    | null =>
      have either : o = .equal ∨ o = .notEqual := by simpa [Typed, comparedBy] using typed
      rcases either with rfl | rfl <;> decide
    | text s =>
      rw [Filter.Allowed, operator_compare (by simp)]
      exact typed
    | number | instant =>
      rw [Filter.Allowed, operator_compare (by simp)]
      exact ordered o typed
    | boolean | guid =>
      rw [Filter.Allowed, operator_compare (by simp)]
      exact chosen o typed
  | between low high =>
    cases low <;> cases high <;> try exact typed.elim
    all_goals exact (by decide : Operator.between ∈ Operator.forOrdered)
  | isEmpty | isNotEmpty => decide
  | relative => exact (by decide : Operator.between ∈ Operator.forOrdered)
  | among excluded =>
    cases excluded
    · exact chosen .equal (by simp)
    · exact chosen .notEqual (by simp)

theorem Phrase.dates {p : Phrase} {d : DateCondition} (h : p.payload = .date d) :
    p.operator = .between ∨ d.mode = .exact := by
  cases p with
  | compare o v =>
    cases v <;> cases h
    exact .inr rfl
  | between low high => exact .inl rfl
  | isEmpty | isNotEmpty | among => cases h
  | relative => exact .inl rfl

theorem plain_filter {w : Written} (typed : w.phrase.Typed) : Plain w.field w.filter :=
  ⟨w.operator, w.payload, rfl, Phrase.allowed typed, fun _ h => Phrase.dates h⟩

theorem plain_written {ws : List Written} (typed : ∀ w ∈ ws, w.phrase.Typed) :
    ∀ f ∈ ws.map Written.filter, Plain f.field f := by
  intro f member
  obtain ⟨w, inside, rfl⟩ := List.mem_map.mp member
  exact plain_filter (typed w inside)

end ODataQuery.Expression
