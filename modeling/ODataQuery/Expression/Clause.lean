import ODataQuery.Expression.Token
import ODataQuery.Expression.Word
import ODataQuery.Filter.Basic

/-! Reading one clause of a filter expression: a field, an operator and its operands. Every step takes
tokens from the front of a list and hands back the rest. -/
namespace ODataQuery.Expression

/-- The value of a token that stands where a value has to. -/
def literalOfToken : Token → Except FilterError Literal
  | .quoted s => .ok (.text s)
  | .word w => .ok (literalOfWord w)
  | other => .error (.unexpectedToken other.describe)

def next : List Token → Except FilterError (Token × List Token)
  | [] => .error .unexpectedEnd
  | t :: rest => .ok (t, rest)

def literal (ts : List Token) : Except FilterError (Literal × List Token) := do
  let (t, rest) ← next ts
  return (← literalOfToken t, rest)

def expect (wanted : Token → Bool) (ts : List Token) : Except FilterError (List Token) := do
  let (t, rest) ← next ts
  if wanted t then return rest else throw (.unexpectedToken t.describe)

/-- The values behind the first one of a list, up to the closing parenthesis. -/
def moreLiterals : List Token → Except FilterError (List Literal × List Token)
  | [] => .error .unclosedParenthesis
  | .closeParen :: rest => .ok ([], rest)
  | [.comma] => .error .unexpectedEnd
  | .comma :: t :: rest => do
    let value ← literalOfToken t
    let (values, left) ← moreLiterals rest
    return (value :: values, left)
  | t :: _ => .error (.unexpectedToken t.describe)

def literals (ts : List Token) : Except FilterError (List Literal × List Token) := do
  let afterOpen ← expect (· = .openParen) ts
  let (first, rest) ← literal afterOpen
  let (values, left) ← moreLiterals rest
  return (first :: values, left)

def amountOfToken : Token → Except FilterError Nat
  | .word w =>
    match natWithin? 4294967295 w with
    | some n => .ok n
    | none => .error (.invalidLiteral w)
  | other => .error (.unexpectedToken other.describe)

def unitOfToken : Token → Except FilterError TimeUnit
  | .word w =>
    match TimeUnit.ofText? w with
    | some u => .ok u
    | none => .error (.invalidTimeUnit w)
  | other => .error (.unexpectedToken other.describe)

def relative (ts : List Token) : Except FilterError ((Nat × TimeUnit) × List Token) := do
  let (t, rest) ← next ts
  let amount ← amountOfToken t
  let (t, rest) ← next rest
  let unit ← unitOfToken t
  return ((amount, unit), rest)

/-- Compares a field with one value. The value decides the kind of the filter; comparing with null
asks whether the field is empty. -/
def comparison (field : String) (operator : Operator) (value : Literal) :
    Except FilterError Filter :=
  match value with
  | .text s => Filter.text field operator s
  | .null =>
    match operator with
    | .equal => Filter.text field .isEmpty ""
    | .notEqual => Filter.text field .isNotEmpty ""
    | _ => .error (.unsupportedOperator operator value.kindName)
  | _ =>
    if operator.isTextSearch then .error (.unsupportedOperator operator value.kindName)
    else
      match value with
      | .number x => Filter.number field operator x
      | .instant t => Filter.date field operator t
      | _ => Filter.choice field operator [value]

/-- A range between two numbers or two instants. -/
def rangeBetween (field : String) (low high : Literal) : Except FilterError Filter :=
  match low, high with
  | .number a, .number b => .ok (Filter.between field a b)
  | .instant a, .instant b => .ok (Filter.dateRange field (some a) (some b))
  | _, _ => .error (.invalidLiteral (low.render ++ " and " ++ high.render))

def negated (field : String) (ts : List Token) : Except FilterError (Filter × List Token) := do
  let (t, rest) ← next ts
  if t.isKeyword "in" then
    let (values, left) ← literals rest
    return (← Filter.choice field .notEqual values, left)
  else if t.isKeyword "contains" then
    let (value, left) ← literal rest
    return (← comparison field .notContains value, left)
  else throw (.unexpectedToken t.describe)

def afterWord (field word : String) (ts : List Token) :
    Except FilterError (Filter × List Token) :=
  match Text.asciiLower word with
  | "isempty" => return (← Filter.text field .isEmpty "", ts)
  | "isnotempty" => return (← Filter.text field .isNotEmpty "", ts)
  | "between" => do
    let (low, rest) ← literal ts
    let rest ← expect (Token.isKeyword "and") rest
    let (high, left) ← literal rest
    return (← rangeBetween field low high, left)
  | "in" => do
    let (values, left) ← literals ts
    return (← Filter.choice field .equal values, left)
  | "not" => negated field ts
  | "last" => do
    let ((amount, unit), left) ← relative ts
    return (Filter.relative field .last amount unit, left)
  | "next" => do
    let ((amount, unit), left) ← relative ts
    return (Filter.relative field .next amount unit, left)
  | _ =>
    match Operator.ofText? word with
    | none => .error (.unknownOperator word)
    | some operator => do
      let (value, left) ← literal ts
      return (← comparison field operator value, left)

def fieldOfToken : Token → Except FilterError String
  | .word w => .ok w
  | other => .error (.unexpectedToken other.describe)

def afterField (field : String) (t : Token) (ts : List Token) :
    Except FilterError (Filter × List Token) :=
  match t with
  | .symbol s => do
    let (value, left) ← literal ts
    return (← comparison field s.operator value, left)
  | .word w => afterWord field w ts
  | other => .error (.unexpectedToken other.describe)

def clause (ts : List Token) : Except FilterError (Filter × List Token) := do
  let (t, rest) ← next ts
  let field ← fieldOfToken t
  let (t, rest) ← next rest
  afterField field t rest

theorem bind_ok_iff {x : Except ε α} {f : α → Except ε β} {b : β} :
    (x >>= f) = .ok b ↔ ∃ a, x = .ok a ∧ f a = .ok b := by
  cases x <;> simp [bind, Except.bind]

theorem next_eq_ok_iff {ts : List Token} {t : Token} {rest : List Token} :
    next ts = .ok (t, rest) ↔ ts = t :: rest := by
  cases ts <;> simp [next]

theorem literal_eq_ok_iff {ts rest : List Token} {value : Literal} :
    literal ts = .ok (value, rest) ↔ ∃ t, ts = t :: rest ∧ literalOfToken t = .ok value := by
  simp only [literal, bind_ok_iff]
  constructor
  · rintro ⟨⟨t, more⟩, hn, v, hv, h⟩
    cases h
    exact ⟨t, next_eq_ok_iff.mp hn, hv⟩
  · rintro ⟨t, rfl, hv⟩
    exact ⟨(t, rest), rfl, value, hv, rfl⟩

theorem expect_eq_ok_iff {wanted : Token → Bool} {ts rest : List Token} :
    expect wanted ts = .ok rest ↔ ∃ t, ts = t :: rest ∧ wanted t = true := by
  simp only [expect, bind_ok_iff]
  constructor
  · rintro ⟨⟨t, more⟩, hn, h⟩
    dsimp only at h
    split at h
    · cases h
      exact ⟨t, next_eq_ok_iff.mp hn, ‹_›⟩
    · cases h
  · rintro ⟨t, rfl, ht⟩
    exact ⟨(t, rest), rfl, by simp [ht, pure, Except.pure]⟩

theorem moreLiterals_shorter {ts rest : List Token} {values : List Literal}
    (h : moreLiterals ts = .ok (values, rest)) : rest.length < ts.length := by
  fun_induction moreLiterals ts generalizing values with
  | case1 => cases h
  | case2 => cases h; simp
  | case3 => cases h
  | case4 t more ih =>
    simp only [bind_ok_iff] at h
    obtain ⟨_, -, ⟨vs, left⟩, hm, h⟩ := h
    cases h
    have := ih hm
    simp only [List.length_cons] at this ⊢
    omega
  | case5 => cases h

theorem literals_shorter {ts rest : List Token} {values : List Literal}
    (h : literals ts = .ok (values, rest)) : rest.length < ts.length := by
  simp only [literals, bind_ok_iff] at h
  obtain ⟨afterOpen, ho, ⟨_, more⟩, hl, ⟨vs, left⟩, hm, h⟩ := h
  cases h
  obtain ⟨_, rfl, -⟩ := expect_eq_ok_iff.mp ho
  obtain ⟨_, rfl, -⟩ := literal_eq_ok_iff.mp hl
  have := moreLiterals_shorter hm
  dsimp only [List.length_cons] at this ⊢
  omega

theorem relative_shorter {ts rest : List Token} {amount : Nat × TimeUnit}
    (h : relative ts = .ok (amount, rest)) : rest.length < ts.length := by
  simp only [relative, bind_ok_iff] at h
  obtain ⟨⟨_, more⟩, hn, _, -, ⟨_, left⟩, hn', _, -, h⟩ := h
  cases h
  rw [next_eq_ok_iff] at hn hn'
  dsimp only at hn'
  subst hn hn'
  exact Nat.lt_succ_of_lt (Nat.lt_succ_self _)

theorem negated_shorter {field : String} {ts rest : List Token} {f : Filter}
    (h : negated field ts = .ok (f, rest)) : rest.length < ts.length := by
  simp only [negated, bind_ok_iff] at h
  obtain ⟨⟨t, more⟩, hn, h⟩ := h
  rw [next_eq_ok_iff] at hn
  subst hn
  dsimp only at h
  split at h
  · simp only [bind_ok_iff] at h
    obtain ⟨⟨_, left⟩, hl, _, -, h⟩ := h
    cases h
    have := literals_shorter hl
    simp only [List.length_cons]
    omega
  · split at h
    · simp only [bind_ok_iff] at h
      obtain ⟨⟨_, left⟩, hl, _, -, h⟩ := h
      cases h
      obtain ⟨_, rfl, -⟩ := literal_eq_ok_iff.mp hl
      simp only [List.length_cons]
      omega
    · cases h

theorem afterWord_le {field word : String} {ts rest : List Token} {f : Filter}
    (h : afterWord field word ts = .ok (f, rest)) : rest.length ≤ ts.length := by
  unfold afterWord at h
  split at h
  · simp only [bind_ok_iff] at h
    obtain ⟨_, -, h⟩ := h
    cases h
    exact Nat.le_refl _
  · simp only [bind_ok_iff] at h
    obtain ⟨_, -, h⟩ := h
    cases h
    exact Nat.le_refl _
  · simp only [bind_ok_iff] at h
    obtain ⟨⟨_, more⟩, hl, more', he, ⟨_, left⟩, hr, _, -, h⟩ := h
    cases h
    obtain ⟨_, rfl, -⟩ := literal_eq_ok_iff.mp hl
    obtain ⟨_, rfl, -⟩ := expect_eq_ok_iff.mp he
    obtain ⟨_, rfl, -⟩ := literal_eq_ok_iff.mp hr
    simp only [List.length_cons]
    omega
  · simp only [bind_ok_iff] at h
    obtain ⟨⟨_, left⟩, hl, _, -, h⟩ := h
    cases h
    exact Nat.le_of_lt (literals_shorter hl)
  · exact Nat.le_of_lt (negated_shorter h)
  · simp only [bind_ok_iff] at h
    obtain ⟨⟨_, left⟩, hl, h⟩ := h
    cases h
    exact Nat.le_of_lt (relative_shorter hl)
  · simp only [bind_ok_iff] at h
    obtain ⟨⟨_, left⟩, hl, h⟩ := h
    cases h
    exact Nat.le_of_lt (relative_shorter hl)
  · split at h
    · cases h
    · simp only [bind_ok_iff] at h
      obtain ⟨⟨_, left⟩, hl, _, -, h⟩ := h
      cases h
      obtain ⟨_, rfl, -⟩ := literal_eq_ok_iff.mp hl
      simp

theorem afterField_le {field : String} {t : Token} {ts rest : List Token} {f : Filter}
    (h : afterField field t ts = .ok (f, rest)) : rest.length ≤ ts.length := by
  unfold afterField at h
  split at h
  · simp only [bind_ok_iff] at h
    obtain ⟨⟨_, left⟩, hl, _, -, h⟩ := h
    cases h
    obtain ⟨_, rfl, -⟩ := literal_eq_ok_iff.mp hl
    simp
  · exact afterWord_le h
  · cases h

/-- A clause takes tokens off the list. -/
theorem clause_shorter {ts rest : List Token} {f : Filter} (h : clause ts = .ok (f, rest)) :
    rest.length < ts.length := by
  simp only [clause, bind_ok_iff] at h
  obtain ⟨⟨_, more⟩, hn, field, -, ⟨t, left⟩, hn', h⟩ := h
  rw [next_eq_ok_iff] at hn hn'
  dsimp only at hn'
  subst hn hn'
  have := afterField_le h
  dsimp only [List.length_cons] at this ⊢
  omega

end ODataQuery.Expression
