import ODataQuery.Entity.Column
import ODataQuery.Proofs.Clause.Written
import ODataQuery.Proofs.Time.Moving

/-! Filters as they can be made and edited, and what such a filter describes: one condition on its
path, stated here without regard to how clauses are built. -/
namespace ODataQuery
namespace Filter

/-- Filters that come from making and editing. Only stored filters are not among them. -/
inductive Made : Filter → Prop
  | make : Filter.make name o values = .ok f → Made f
  | between (field : String) (low high : Binary64) : Made (Filter.between field low high)
  | relative (field : String) (mode : DateMode) (amount : Nat) (unit : TimeUnit) :
      Made (Filter.relative field mode amount unit)
  | dateRange (field : String) (start stop : Option Instant) :
      Made (Filter.dateRange field start stop)
  | boolean (field : String) (value : Bool) : Made (Filter.boolean field value)
  | column (c : Column) : Made c.filter
  | named (id : Guid) (field : String) (property : Option String) (immediate : Bool)
      (label : Option String) : Made f → Made { f with id, field, property, immediate, label }
  | operator : Made f → f.setOperator o = .ok g → Made g
  | value : Made f → f.editValue? edit = some g → Made g

theorem setOperator_ok_iff {f g : Filter} {operator : Operator} :
    f.setOperator operator = .ok g ↔ Allowed operator f.payload ∧ g = { f with operator } := by
  unfold setOperator
  split <;> simp_all [eq_comm]

theorem Made.allowed {f : Filter} (h : f.Made) : Allowed f.operator f.payload := by
  induction h with
  | make made =>
    obtain ⟨allowed, rfl⟩ := make_ok_iff.mp made
    exact allowed
  | between | relative | dateRange | boolean => simp [Allowed, Payload.allowedOperators,
      Filter.between, Filter.relative, Filter.dateRange, Filter.boolean, Operator.forOrdered,
      Operator.forChoice]
  | column c => exact Payload.defaultOperator_allowed c.valueType
  | named _ _ _ _ _ _ ih => exact ih
  | operator _ set ih =>
    obtain ⟨allowed, rfl⟩ := setOperator_ok_iff.mp set
    exact allowed
  | value _ edited ih =>
    obtain ⟨payload, changed, rfl⟩ := Option.map_eq_some_iff.mp edited
    rw [Allowed, ValueEdit.allowedOperators_change? changed]
    exact ih

/-- A path between two bounds, of which either may be missing. -/
def within? (path : String) (low high : Option Literal) : Option Condition :=
  Condition.joinAny? .and ((low.map (.compare path .greaterOrEqual)).toList ++
    (high.map (.compare path .lessOrEqual)).toList)

def finiteLiteral? : Option Binary64 → Option Literal
  | some x => if x.isFinite then some (.number x) else none
  | none => none

def dates? (now : Instant) (path : String) (operator : Operator) (d : DateCondition) :
    Option Condition :=
  match d.mode, d.amount with
  | .last, some (amount + 1) => do
    let start ← now.move? d.unit (-(amount + 1 : Nat))
    within? path (some (.instant start)) (some (.instant now))
  | .next, some (amount + 1) => do
    let stop ← now.move? d.unit (amount + 1 : Nat)
    within? path (some (.instant now)) (some (.instant stop))
  | .last, _ | .next, _ => none
  | .range, _ => within? path (d.range.start.map .instant) (d.range.stop.map .instant)
  | .exact, _ =>
    if operator = .between then
      within? path (d.range.start.map .instant) (d.range.stop.map .instant)
    else d.value.map fun t => .compare path operator (.instant t)

/-- The condition that a filter describes at the moment `now`, or `none` when it has no usable
value. -/
def condition? (now : Instant) (path : String) (f : Filter) : Option Condition :=
  if f.operator = .isEmpty then some (.compare path .equal .null)
  else if f.operator = .isNotEmpty then some (.compare path .notEqual .null)
  else
    match f.payload with
    | .text value => (value.filter (· ≠ "")).map fun s => .compare path f.operator (.text s)
    | .numbers low high =>
      if f.operator = .between then within? path (finiteLiteral? low) (finiteLiteral? high)
      else (finiteLiteral? low).map (.compare path f.operator)
    | .date d => dates? now path f.operator d
    | .choice selected =>
      let usable := selected.filter (!·.isBlank)
      if f.operator = .notEqual then Condition.joinAny? .and (usable.map (.compare path .notEqual))
      else Condition.joinAny? .or (usable.map (.compare path .equal))

theorem finiteLiteral?_eq (x : Option Binary64) : finiteLiteral? x = Fragment.finite? x := by
  cases x with
  | none => rfl
  | some x => cases finite : x.isFinite <;> simp [finiteLiteral?, Fragment.finite?, finite]

theorem hasUsable_eq (x : Option Binary64) : hasUsable x = (Fragment.finite? x).isSome := by
  cases x with
  | none => rfl
  | some x => cases finite : x.isFinite <;> simp [hasUsable, Fragment.finite?, finite]

theorem condition_range? (path : String) (low high : Option Literal) :
    (Fragment.range? low high).map (Fragment.condition path) = within? path low high := by
  cases low <;> cases high <;> rfl

/-- Nothing lies between bounds that are both missing. -/
theorem within?_isOpen (path : String) {r : DateRange} (bare : r.isOpen = true) :
    within? path (r.start.map .instant) (r.stop.map .instant) = none := by
  obtain ⟨start | _, stop | _⟩ := r <;> first | rfl | cases bare

theorem condition_ofDate? (now : Instant) (path : String) (operator : Operator)
    (d : DateCondition) :
    (if (match d.mode with
        | .last | .next => decide (d.amount.getD 0 = 0)
        | .range => d.range.isOpen
        | .exact =>
          if operator = Operator.between then d.range.isOpen else d.value.isNone) then none
      else Fragment.ofDate? now operator d).map (Fragment.condition path) =
        dates? now path operator d := by
  obtain ⟨value, mode, unit, amount, range⟩ := d
  have bounds := condition_range? path (range.start.map .instant) (range.stop.map .instant)
  cases mode with
  | last | next =>
    rcases amount with _ | _ | amount
    · rfl
    · rfl
    · simp [dates?, Fragment.ofDate?, Fragment.shift?_eq_move?, Option.map_bind, condition_range?]
  | range =>
    cases bare : range.isOpen with
    | true => simp [dates?, within?_isOpen path bare]
    | false => simpa [dates?, Fragment.ofDate?] using bounds
  | exact =>
    by_cases between : operator = .between
    · cases bare : range.isOpen with
      | true => simp [dates?, between, within?_isOpen path bare]
      | false => simpa [dates?, Fragment.ofDate?, between] using bounds
    · cases value <;> simp [dates?, Fragment.ofDate?, between, Fragment.condition]

theorem filter_isBlank {selected : List Literal} (bare : selected.all Literal.isBlank = true) :
    selected.filter (!·.isBlank) = [] := by
  simpa using bare

theorem condition_ofChoice? (path : String) (operator : Operator) (selected : List Literal) :
    (Fragment.ofChoice? operator selected).map (Fragment.condition path) =
      if operator = .notEqual then
        Condition.joinAny? .and
          ((selected.filter (!·.isBlank)).map (Condition.compare path .notEqual))
      else
        Condition.joinAny? .or
          ((selected.filter (!·.isBlank)).map (Condition.compare path .equal)) := by
  unfold Fragment.ofChoice?
  generalize selected.filter (fun v => !v.isBlank) = usable
  by_cases exclude : operator = .notEqual <;> rcases usable with _ | ⟨v, _ | ⟨w, rest⟩⟩ <;>
    simp [exclude, Condition.joinAny?, Condition.join, Fragment.condition]

/-- The fragment of a filter says what the filter describes, and there is one exactly then. -/
theorem condition_ofFilter? (now : Instant) (path : String) (f : Filter) :
    (Fragment.ofFilter? now f).map (Fragment.condition path) = f.condition? now path := by
  by_cases empty : f.operator = .isEmpty
  · simp [Fragment.ofFilter?, isInert, condition?, empty, Operator.isNullary, Fragment.condition]
  by_cases present : f.operator = .isNotEmpty
  · simp [Fragment.ofFilter?, isInert, condition?, present, Operator.isNullary, Fragment.condition]
  have plain : f.operator.isNullary = false := by
    cases operator : f.operator <;> simp_all [Operator.isNullary]
  obtain ⟨id, field, property, immediate, label, operator, payload⟩ := f
  dsimp only at empty present plain
  simp only [Fragment.ofFilter?, isInert, condition?, empty, present, plain, Bool.false_eq_true,
    if_false]
  cases payload with
  | text value =>
    cases value with
    | none => rfl
    | some s => by_cases bare : s = "" <;> simp [bare, Fragment.condition]
  | numbers low high =>
    simp only [hasUsable_eq, finiteLiteral?_eq]
    by_cases between : operator = .between
    · cases Fragment.finite? low <;> cases Fragment.finite? high <;>
        simp [between, ← condition_range?, Fragment.range?]
    · cases Fragment.finite? low <;> simp [between, Fragment.condition]
  | date d => exact condition_ofDate? now path operator d
  | choice selected =>
    dsimp only
    rw [← condition_ofChoice?]
    by_cases bare : selected.all Literal.isBlank = true
    · rw [if_pos bare, Fragment.ofChoice?, filter_isBlank bare]
    · rw [if_neg bare]

/-- The fragment of a date is a range, or compares with the date itself. -/
theorem ofDate?_cases {now : Instant} {o : Operator} {d : DateCondition} {fragment : Fragment}
    (h : Fragment.ofDate? now o d = some fragment) :
    (∃ low high, Fragment.range? low high = some fragment) ∨
      o ≠ .between ∧ ∃ t, fragment = .single o (.instant t) := by
  unfold Fragment.ofDate? at h
  split at h
  · simp only [Option.bind_eq_bind, Option.bind_eq_some_iff] at h
    obtain ⟨_, -, _, -, bounds⟩ := h
    exact .inl ⟨_, _, bounds⟩
  · simp only [Option.bind_eq_bind, Option.bind_eq_some_iff] at h
    obtain ⟨_, -, _, -, bounds⟩ := h
    exact .inl ⟨_, _, bounds⟩
  · exact .inl ⟨_, _, h⟩
  · split at h
    · exact .inl ⟨_, _, h⟩
    · rename_i single
      obtain ⟨t, -, rfl⟩ := Option.map_eq_some_iff.mp h
      exact .inr ⟨single, t, rfl⟩

theorem sound_range? {low high : Option Literal} {fragment : Fragment}
    (h : Fragment.range? low high = some fragment) : fragment.Sound := by
  cases low <;> cases high <;> cases h <;> first | trivial | exact .inl rfl

/-- Operators for ordered values take two bounds, no value, or one that they compare with. -/
theorem isAtomic_of_ordered {o : Operator} (member : o ∈ Operator.forOrdered)
    (plain : o.isNullary = false) (single : o ≠ .between) : o.isAtomic = true := by
  revert member plain single
  cases o <;> decide

theorem isAtomic_of_text {o : Operator} (member : o ∈ Operator.forText)
    (plain : o.isNullary = false) : o.isAtomic = true ∨ o = .notContains := by
  revert member plain
  cases o <;> decide

theorem sound_ofDate? {now : Instant} {o : Operator} {d : DateCondition} {fragment : Fragment}
    (member : o ∈ Operator.forOrdered) (plain : o.isNullary = false)
    (h : Fragment.ofDate? now o d = some fragment) : fragment.Sound := by
  rcases ofDate?_cases h with ⟨low, high, bounds⟩ | ⟨single, t, rfl⟩
  · exact sound_range? bounds
  · exact .inl (isAtomic_of_ordered member plain single)

theorem sound_ofChoice? {o : Operator} {selected : List Literal} {fragment : Fragment}
    (h : Fragment.ofChoice? o selected = some fragment) : fragment.Sound := by
  unfold Fragment.ofChoice? at h
  generalize selected.filter (fun v => !v.isBlank) = usable at h
  rcases usable with _ | ⟨v, _ | ⟨w, rest⟩⟩ <;> cases h
  · exact .inl (by split <;> rfl)
  · split <;> simp [Fragment.Sound]

/-- What an operator that fits the values of a filter makes of them. -/
theorem sound_ofFilter? {now : Instant} {f : Filter} {fragment : Fragment}
    (allowed : Allowed f.operator f.payload) (h : Fragment.ofFilter? now f = some fragment) :
    fragment.Sound := by
  unfold Fragment.ofFilter? at h
  split at h
  · cases h
  split at h
  · rename_i nullary
    cases h
    exact nullary
  rename_i plain
  have plain : f.operator.isNullary = false := by simpa using plain
  unfold Allowed at allowed
  cases payload : f.payload <;> rw [payload] at h allowed <;> dsimp only at h
  case text value =>
    obtain ⟨s, -, rfl⟩ := Option.map_eq_some_iff.mp h
    exact isAtomic_of_text allowed plain
  case numbers low high =>
    split at h
    · exact sound_range? h
    · rename_i single
      obtain ⟨v, -, rfl⟩ := Option.map_eq_some_iff.mp h
      exact .inl (isAtomic_of_ordered allowed plain single)
  case date d => exact sound_ofDate? allowed plain h
  case choice selected => exact sound_ofChoice? h

end Filter
end ODataQuery
