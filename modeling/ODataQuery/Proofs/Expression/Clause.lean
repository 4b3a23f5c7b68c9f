import ODataQuery.Expression.Basic

/-! Reading a clause is local: a reader takes tokens from the front, and those behind them have no
part in what it makes of them. What a clause gives is a filter on the field it begins with. -/
namespace ODataQuery.Expression

/-- Takes tokens from the front of a list and hands back the others, whatever these are. -/
def Local (read : List Token → Except FilterError (α × List Token)) : Prop :=
  ∀ ts a rest, read ts = .ok (a, rest) →
    ∃ used, ts = used ++ rest ∧ ∀ more, read (used ++ more) = .ok (a, more)

namespace Local

theorem pure (a : α) : Local fun ts => Pure.pure (a, ts) := by
  intro ts b rest h
  cases h
  exact ⟨[], rfl, fun more => rfl⟩

theorem error (e : FilterError) :
    Local (fun _ => .error e : List Token → Except FilterError (α × List Token)) := by
  intro ts a rest h
  cases h

theorem bind {read : List Token → Except FilterError (α × List Token)}
    {next : α × List Token → Except FilterError (β × List Token)} (first : Local read)
    (second : ∀ a, Local fun ts => next (a, ts)) : Local fun ts => read ts >>= next := by
  intro ts b rest h
  obtain ⟨⟨a, middle⟩, readFirst, readSecond⟩ := bind_ok_iff.mp h
  obtain ⟨used, rfl, again⟩ := first _ _ _ readFirst
  obtain ⟨used', rfl, again'⟩ := second a _ _ _ readSecond
  refine ⟨used ++ used', by simp, ?_⟩
  intro more
  rw [List.append_assoc]
  exact bind_ok_iff.mpr ⟨_, again _, again' more⟩

theorem value {step : Except FilterError α}
    {next : α → List Token → Except FilterError (β × List Token)} (second : ∀ a, Local (next a)) :
    Local fun ts => step >>= fun a => next a ts := by
  cases step with
  | error e => exact error e
  | ok a => exact second a

theorem next : Local next := by
  intro ts t rest h
  rw [next_eq_ok_iff] at h
  subst h
  exact ⟨[t], rfl, fun more => rfl⟩

theorem literal : Local literal :=
  next.bind fun _ => value fun v => pure v

theorem expect {wanted : Token → Bool} {next : List Token → Except FilterError (α × List Token)}
    (second : Local next) : Local fun ts => Expression.expect wanted ts >>= next := by
  intro ts a rest h
  obtain ⟨middle, expected, read⟩ := bind_ok_iff.mp h
  obtain ⟨t, rfl, isWanted⟩ := expect_eq_ok_iff.mp expected
  obtain ⟨used, rfl, again⟩ := second _ _ _ read
  refine ⟨t :: used, rfl, ?_⟩
  intro more
  exact bind_ok_iff.mpr ⟨_, expect_eq_ok_iff.mpr ⟨t, rfl, isWanted⟩, again more⟩

theorem moreLiterals : Local moreLiterals := by
  intro ts values rest h
  fun_induction Expression.moreLiterals ts generalizing values with
  | case1 => cases h
  | case2 rest => cases h; exact ⟨[.closeParen], rfl, fun more => rfl⟩
  | case3 => cases h
  | case4 t more ih =>
    obtain ⟨v, isLiteral, ⟨vs, left⟩, readMore, same⟩ := by simpa only [bind_ok_iff] using h
    cases same
    obtain ⟨used, rfl, again⟩ := ih vs readMore
    refine ⟨.comma :: t :: used, rfl, ?_⟩
    intro more
    simp only [List.cons_append, Expression.moreLiterals, bind_ok_iff]
    exact ⟨v, isLiteral, _, again more, rfl⟩
  | case5 => cases h

theorem literals : Local literals :=
  expect (literal.bind fun _ => moreLiterals.bind fun _ => pure _)

theorem relative : Local relative :=
  next.bind fun _ => value fun _ => next.bind fun _ => value fun _ => pure _

theorem negated (field : String) : Local (negated field) := by
  refine next.bind fun t => ?_
  by_cases list : t.isKeyword "in" = true
  · simp only [list, if_true]
    refine literals.bind fun values => ?_
    dsimp only
    exact value fun _ => pure _
  by_cases search : t.isKeyword "contains" = true
  · simp only [list, search, if_true]
    refine literal.bind fun v => ?_
    dsimp only
    exact value fun _ => pure _
  · simp only [list, search]
    exact error _

theorem afterWord (field word : String) : Local (afterWord field word) := by
  unfold Expression.afterWord
  split
  · exact value fun _ => pure _
  · exact value fun _ => pure _
  · exact literal.bind fun _ => expect (literal.bind fun _ => value fun _ => pure _)
  · exact literals.bind fun _ => value fun _ => pure _
  · exact negated field
  · exact relative.bind fun _ => pure _
  · exact relative.bind fun _ => pure _
  · split
    · exact error _
    · exact literal.bind fun _ => value fun _ => pure _

theorem afterField (field : String) (t : Token) : Local (afterField field t) := by
  cases t with
  | symbol s => exact literal.bind fun _ => value fun _ => pure _
  | word w => exact afterWord field w
  | quoted | openParen | closeParen | comma => exact error _

theorem clause : Local clause :=
  next.bind fun _ => value fun _ => next.bind fun _ => afterField _ _

end Local

/-- Filters as clauses give them: the operator fits the values, a field stands for itself, and dates
relative to now are ranges. -/
def Plain (field : String) (f : Filter) : Prop :=
  ∃ operator payload, f = ⟨.nil, field, none, false, none, operator, payload⟩ ∧
    Filter.Allowed operator payload ∧
    ∀ d, payload = .date d → operator = .between ∨ d.mode = .exact

namespace Plain

variable {field : String} {operator : Operator} {f : Filter}

theorem allowed (plain : Plain field f) : Filter.Allowed f.operator f.payload := by
  obtain ⟨_, _, same, allowed, -⟩ := plain
  rw [same]
  exact allowed

theorem make {payload : Payload} (h : Filter.make field operator payload = .ok f)
    (dates : ∀ d, payload = .date d → d.mode = .exact) : Plain field f := by
  obtain ⟨allowed, rfl⟩ := Filter.make_ok_iff.mp h
  exact ⟨operator, payload, rfl, allowed, fun d same => .inr (dates d same)⟩

theorem text {s : String} (h : Filter.text field operator s = .ok f) : Plain field f :=
  make h (by simp)

theorem choice {values : List Literal} (h : Filter.choice field operator values = .ok f) :
    Plain field f :=
  make h (by simp)

theorem between {payload : Payload} (ordered : payload.allowedOperators = Operator.forOrdered) :
    Plain field ⟨.nil, field, none, false, none, .between, payload⟩ := by
  refine ⟨.between, payload, rfl, ?_, fun d _ => .inl rfl⟩
  rw [Filter.Allowed, ordered]
  decide

theorem comparison {value : Literal} (h : comparison field operator value = .ok f) :
    Plain field f := by
  unfold Expression.comparison at h
  split at h
  · exact text h
  · split at h
    · exact text h
    · exact text h
    · cases h
  · split at h
    · cases h
    split at h
    · exact make h (by simp)
    · exact make h (by rintro d ⟨⟩; rfl)
    · exact choice h

theorem rangeBetween {low high : Literal} (h : rangeBetween field low high = .ok f) :
    Plain field f := by
  unfold Expression.rangeBetween at h
  split at h
  · cases h; exact between rfl
  · cases h; exact between rfl
  · cases h

theorem negated {ts rest : List Token} (h : negated field ts = .ok (f, rest)) : Plain field f := by
  simp only [Expression.negated, bind_ok_iff] at h
  obtain ⟨⟨t, more⟩, -, h⟩ := h
  split at h
  · simp only [bind_ok_iff] at h
    obtain ⟨_, -, g, made, h⟩ := h
    cases h
    exact choice made
  · split at h
    · simp only [bind_ok_iff] at h
      obtain ⟨_, -, g, made, h⟩ := h
      cases h
      exact comparison made
    · cases h

theorem afterWord {word : String} {ts rest : List Token}
    (h : afterWord field word ts = .ok (f, rest)) : Plain field f := by
  unfold Expression.afterWord at h
  split at h
  · simp only [bind_ok_iff] at h
    obtain ⟨g, made, h⟩ := h
    cases h
    exact text made
  · simp only [bind_ok_iff] at h
    obtain ⟨g, made, h⟩ := h
    cases h
    exact text made
  · simp only [bind_ok_iff] at h
    obtain ⟨_, -, _, -, _, -, g, made, h⟩ := h
    cases h
    exact rangeBetween made
  · simp only [bind_ok_iff] at h
    obtain ⟨_, -, g, made, h⟩ := h
    cases h
    exact choice made
  · exact negated h
  · simp only [bind_ok_iff] at h
    obtain ⟨_, -, h⟩ := h
    cases h
    exact between rfl
  · simp only [bind_ok_iff] at h
    obtain ⟨_, -, h⟩ := h
    cases h
    exact between rfl
  · split at h
    · cases h
    · simp only [bind_ok_iff] at h
      obtain ⟨_, -, g, made, h⟩ := h
      cases h
      exact comparison made

theorem afterField {t : Token} {ts rest : List Token}
    (h : afterField field t ts = .ok (f, rest)) : Plain field f := by
  unfold Expression.afterField at h
  split at h
  · simp only [bind_ok_iff] at h
    obtain ⟨_, -, g, made, h⟩ := h
    cases h
    exact comparison made
  · exact afterWord h
  · cases h

end Plain

theorem clause_plain {ts rest : List Token} {f : Filter} (h : clause ts = .ok (f, rest)) :
    ∃ field more, ts = .word field :: more ∧ Plain field f := by
  simp only [clause, bind_ok_iff] at h
  obtain ⟨⟨t, more⟩, front, field, isField, ⟨t', left⟩, -, h⟩ := h
  rw [next_eq_ok_iff] at front
  cases t with
  | word w =>
    cases isField
    exact ⟨_, more, front, Plain.afterField h⟩
  | quoted | symbol | openParen | closeParen | comma => cases isField

end ODataQuery.Expression
