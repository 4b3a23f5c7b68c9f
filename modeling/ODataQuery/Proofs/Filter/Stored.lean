import ODataQuery.Filter.Stored
import ODataQuery.Expression.Basic
import ODataQuery.Proofs.Filter.Made
import ODataQuery.Proofs.Guid
import ODataQuery.Proofs.Time.Reading

/-! Stored filters. A filter that is stored and read again asks for the same, whatever its values
are, with one exception: a choice that holds a number which is not finite is stored as one that is
not read. A number outside of a choice becomes no number instead, which asks for as little. -/
namespace ODataQuery

open Json (Entry)

namespace Literal

/-- A literal as it is read back: an instant is what its text says. -/
def settled : Literal → Literal
  | instant t => instant t.settled
  | v => v

/-- A number that is not finite is stored as nothing. -/
def isStorable : Literal → Bool
  | number x => x.isFinite
  | _ => true

theorem ofJson?_toJson (v : Literal) :
    ofJson? v.toJson = if v.isStorable then some v.settled else none := by
  cases v with
  | text | boolean | null => rfl
  | number x =>
    cases finite : x.isFinite <;>
      simp [ofJson?, toJson, Json.variant?, Json.ofReal, Json.asReal?, isStorable, settled, finite]
  | instant t =>
    simp [ofJson?, toJson, Json.variant?, Instant.ofJson?, Instant.toJson, Json.asString?,
      Instant.relaxed?_text, isStorable, settled]
  | guid g =>
    simp [ofJson?, toJson, Json.variant?, Guid.ofJson?, Json.asString?, Guid.ofText?_text,
      isStorable, settled]

theorem render_instant_settled (t : Instant) : (instant t.settled).render = (instant t).render :=
  t.secondsText_settled

theorem render_settled (v : Literal) : v.settled.render = v.render := by
  cases v with
  | instant t => exact render_instant_settled t
  | _ => rfl

theorem isBlank_settled (v : Literal) : v.settled.isBlank = v.isBlank := by
  cases v <;> rfl

end Literal

theorem Instant.optional_ofJson? (t : Option Instant) :
    (Entry.given (.ofOption Instant.toJson t)).optional Instant.ofJson? =
      some (t.map Instant.settled) := by
  cases t with
  | none => rfl
  | some t => simp [Json.ofOption, Instant.toJson, Entry.optional, Instant.ofJson?, Json.asString?,
      Instant.relaxed?_text]

/-- A number that is not finite is read back as no number. -/
theorem Binary64.optional_asReal? (x : Option Binary64) :
    (Entry.given (.ofOption Json.ofReal x)).optional Json.asReal? =
      some (x.filter Binary64.isFinite) := by
  cases x with
  | none => rfl
  | some x =>
    cases finite : x.isFinite <;>
      simp [Json.ofOption, Json.ofReal, Entry.optional, Json.asReal?, Option.filter, finite]

namespace DateCondition

def Bounded (d : DateCondition) : Prop := ∀ n ∈ d.amount, n ≤ maxAmount

def settled (d : DateCondition) : DateCondition :=
  { d with
    value := d.value.map Instant.settled
    range := ⟨d.range.start.map Instant.settled, d.range.stop.map Instant.settled⟩ }

theorem ofJson?_toJson {d : DateCondition} (bounded : d.Bounded) :
    ofJson? d.toJson = some d.settled := by
  have amount : (Entry.given (.ofOption Json.ofNat d.amount)).optional (Json.asNat? maxAmount) =
      some d.amount := by
    cases same : d.amount with
    | none => rfl
    | some n =>
      have small := bounded n same
      simp [Json.ofOption, Json.ofNat, Entry.optional, Json.asNat?, Json.asInt?, small]
  have mode : (Entry.given (.string d.mode.name)).required DateMode.ofJson? = some d.mode := by
    exact DateMode.ofName?_name d.mode
  have unit : (Entry.given (.string d.unit.name)).required TimeUnit.ofJson? = some d.unit :=
    TimeUnit.ofName?_name d.unit
  have range : (Entry.given d.range.toJson).required DateRange.ofJson? = some d.settled.range := by
    have entries : d.range.toJson.record2? "start" "end" =
        some (.given (.ofOption Instant.toJson d.range.start),
          .given (.ofOption Instant.toJson d.range.stop)) := rfl
    simp [Entry.required, DateRange.ofJson?, entries, Instant.optional_ofJson?, settled]
  have entries :
      d.toJson.entries? ["value", "date_operator", "time_unit", "unit_value", "range"] =
        some [.given (.ofOption Instant.toJson d.value), .given (.string d.mode.name),
          .given (.string d.unit.name), .given (.ofOption Json.ofNat d.amount),
          .given d.range.toJson] := rfl
  simp [ofJson?, entries, Instant.optional_ofJson?, amount, mode, unit, range, settled]

end DateCondition

namespace Payload

def Bounded : Payload → Prop
  | date d => d.Bounded
  | _ => True

def isStorable : Payload → Bool
  | choice selected => selected.all Literal.isStorable
  | _ => true

def settled : Payload → Payload
  | text value => text value
  | numbers value secondary =>
    numbers (value.filter Binary64.isFinite) (secondary.filter Binary64.isFinite)
  | date d => date d.settled
  | choice selected => choice (selected.map Literal.settled)

theorem mapM_ofJson? (selected : List Literal) :
    (selected.map Literal.toJson).mapM Literal.ofJson? =
      if selected.all Literal.isStorable then some (selected.map Literal.settled) else none := by
  induction selected with
  | nil => rfl
  | cons v rest ih =>
    rw [List.map_cons, List.mapM_cons, Literal.ofJson?_toJson, ih, List.all_cons]
    cases v.isStorable <;> cases rest.all Literal.isStorable <;> rfl

theorem ofJson?_toJson {p : Payload} (bounded : p.Bounded) :
    ofJson? p.toJson = if p.isStorable then some p.settled else none := by
  cases p with
  | text value => cases value <;> rfl
  | numbers value secondary =>
    have entries : (Json.object [("value", .ofOption Json.ofReal value),
        ("secondary_value", .ofOption Json.ofReal secondary)]).record2? "value" "secondary_value" =
          some (.given (.ofOption Json.ofReal value), .given (.ofOption Json.ofReal secondary)) :=
      rfl
    simp [ofJson?, toJson, Json.variant?, entries, Binary64.optional_asReal?, isStorable, settled]
  | date d =>
    simp [ofJson?, toJson, Json.variant?, DateCondition.ofJson?_toJson bounded, isStorable, settled]
  | choice selected =>
    have entry : field? "selected" (.object [("selected", .array (selected.map Literal.toJson))]) =
        some (.given (.array (selected.map Literal.toJson))) := rfl
    have items : (Entry.given (.array (selected.map Literal.toJson))).required
        (Json.listOf? Literal.ofJson?) =
          if selected.all Literal.isStorable then some (selected.map Literal.settled) else none :=
      mapM_ofJson? selected
    have storable : (choice selected).isStorable = selected.all Literal.isStorable := rfl
    rw [storable]
    simp only [ofJson?, toJson, Json.variant?, entry, Option.bind_eq_bind, Option.bind_some, items]
    cases selected.all Literal.isStorable <;> rfl

end Payload

namespace Filter

/-- A filter as it is read back. -/
def settled (f : Filter) : Filter := { f with payload := f.payload.settled }

theorem ofJson?_toJson {f : Filter} (bounded : f.payload.Bounded) :
    ofJson? f.toJson = if f.payload.isStorable then some f.settled else none := by
  have entries :
      f.toJson.entries? ["id", "field", "property", "is_immediate", "ui", "operator", "kind"] =
        some [.given (.string f.id.text), .given (.string f.field),
          .given (.ofOption Json.string f.property), .given (.bool f.immediate),
          .given (.object [("label", .ofOption Json.string f.label)]),
          .given (.string f.operator.name), .given f.payload.toJson] := rfl
  have id : (Entry.given (.string f.id.text)).required Guid.ofJson? = some f.id :=
    Guid.ofText?_text f.id
  have text (s : Option String) :
      (Entry.given (.ofOption Json.string s)).optional Json.asString? = some s := by
    cases s <;> rfl
  have label : (Entry.given (.object [("label", .ofOption Json.string f.label)])).required
      labelOfJson? = some f.label := text f.label
  have operator : (Entry.given (.string f.operator.name)).required Operator.ofJson? =
      some f.operator := Operator.ofName?_name f.operator
  have payload : (Entry.given f.payload.toJson).required Payload.ofJson? =
      if f.payload.isStorable then some f.payload.settled else none :=
    Payload.ofJson?_toJson bounded
  have field : (Entry.given (.string f.field)).required Json.asString? = some f.field := rfl
  have immediate : (Entry.given (.bool f.immediate)).required Json.asBool? = some f.immediate :=
    rfl
  simp only [ofJson?, entries, id, field, text, immediate, label, operator, payload,
    Option.bind_eq_bind, Option.bind_some]
  cases f.payload.isStorable <;> rfl

theorem text_range?_settled (path : String) (low high : Option Instant) :
    (Fragment.range? ((low.map Instant.settled).map .instant)
      ((high.map Instant.settled).map .instant)).map (Fragment.text path) =
    (Fragment.range? (low.map .instant) (high.map .instant)).map (Fragment.text path) := by
  cases low <;> cases high <;>
    simp [Fragment.range?, Fragment.text, Literal.render_instant_settled]

theorem text_ofDate?_settled (path : String) (now : Instant) (o : Operator) (d : DateCondition) :
    (Fragment.ofDate? now o d.settled).map (Fragment.text path) =
      (Fragment.ofDate? now o d).map (Fragment.text path) := by
  obtain ⟨value, mode, unit, amount, range⟩ := d
  cases mode with
  | last | next => rfl
  | range => exact text_range?_settled path range.start range.stop
  | exact =>
    by_cases between : o = .between
    · simpa [Fragment.ofDate?, DateCondition.settled, between] using
        text_range?_settled path range.start range.stop
    · cases value <;> simp [Fragment.ofDate?, DateCondition.settled, between, Fragment.text,
        Literal.render_instant_settled]

theorem text_ofChoice?_settled (path : String) (o : Operator) (selected : List Literal) :
    (Fragment.ofChoice? o (selected.map Literal.settled)).map (Fragment.text path) =
      (Fragment.ofChoice? o selected).map (Fragment.text path) := by
  have usable : (selected.map Literal.settled).filter (fun v => !v.isBlank) =
      (selected.filter fun v => !v.isBlank).map Literal.settled := by
    rw [List.filter_map]
    congr 2
    funext v
    simp [Literal.isBlank_settled]
  unfold Fragment.ofChoice?
  rw [usable]
  generalize selected.filter (fun v => !v.isBlank) = values
  rcases values with _ | ⟨v, _ | ⟨w, rest⟩⟩
  · rfl
  · simp [Fragment.text, Literal.render_settled]
  · by_cases exclude : o = .notEqual <;>
      simp [exclude, Fragment.text, Fragment.joined, Literal.render_settled, Function.comp_def]

theorem finite?_filter (x : Option Binary64) :
    Fragment.finite? (x.filter Binary64.isFinite) = Fragment.finite? x := by
  simp [Fragment.finite?]

theorem isOpen_settled (d : DateCondition) : d.settled.range.isOpen = d.range.isOpen := by
  simp [DateCondition.settled, DateRange.isOpen]

theorem isInert_settled (f : Filter) : f.settled.isInert = f.isInert := by
  obtain ⟨id, field, property, immediate, label, operator, payload⟩ := f
  cases payload with
  | text value => rfl
  | numbers low high => simp [isInert, settled, Payload.settled, hasUsable_eq, finite?_filter]
  | date d =>
    have value : d.settled.value.isNone = d.value.isNone := by simp [DateCondition.settled]
    simp only [isInert, settled, Payload.settled, isOpen_settled, value]
    rfl
  | choice selected =>
    simp [isInert, settled, Payload.settled, Function.comp_def, Literal.isBlank_settled]

theorem render?_settled (c : Compiler) (f : Filter) : c.render? f.settled = c.render? f := by
  have path : c.path f.settled = c.path f := rfl
  have operator : f.settled.operator = f.operator := rfl
  rw [Compiler.render?, Compiler.render?, path, Fragment.ofFilter?, Fragment.ofFilter?,
    isInert_settled, operator]
  by_cases inert : f.isInert = true
  · rw [if_pos inert, if_pos inert]
  by_cases nullary : f.operator.isNullary = true
  · rw [if_neg inert, if_neg inert, if_pos nullary, if_pos nullary]
  rw [if_neg inert, if_neg inert, if_neg nullary, if_neg nullary, settled]
  cases f.payload with
  | text value => rfl
  | numbers low high => simp only [Payload.settled, finite?_filter]
  | date d => exact text_ofDate?_settled _ c.now f.operator d
  | choice selected => exact text_ofChoice?_settled _ f.operator selected

theorem isStorable_eq_false_iff {p : Payload} :
    p.isStorable = false ↔
      ∃ selected x, p = .choice selected ∧ .number x ∈ selected ∧ x.isFinite = false := by
  have literal (v : Literal) :
      v.isStorable = false ↔ ∃ x, v = .number x ∧ x.isFinite = false := by
    cases v <;> simp [Literal.isStorable]
  cases p with
  | text | numbers | date => simp [Payload.isStorable]
  | choice selected =>
    simp only [Payload.isStorable, List.all_eq_false, Bool.not_eq_true, literal,
      Payload.choice.injEq]
    constructor
    · rintro ⟨_, member, x, rfl, infinite⟩
      exact ⟨selected, x, rfl, member, infinite⟩
    · rintro ⟨_, x, rfl, member, infinite⟩
      exact ⟨_, member, x, rfl, infinite⟩

/-- A filter is stored and read again for the same, unless it is a choice with a number that is not
finite. -/
theorem render?_ofJson? {f : Filter} (bounded : f.payload.Bounded) :
    (ofJson? f.toJson = none ↔
      ∃ selected x, f.payload = .choice selected ∧ .number x ∈ selected ∧ x.isFinite = false) ∧
    ∀ g ∈ ofJson? f.toJson, { g with payload := f.payload } = f ∧
      ∀ c : Compiler, c.render? g = c.render? f := by
  rw [ofJson?_toJson bounded, ← isStorable_eq_false_iff]
  cases f.payload.isStorable with
  | false => simp
  | true =>
    refine ⟨by simp, ?_⟩
    rintro g ⟨⟩
    exact ⟨rfl, fun c => render?_settled c f⟩

/-- The last thirty days stay what they are. -/
theorem render?_ofJson?_relative :
    ∃ g, ofJson? (relative "Created" .last 30 .day).toJson = some g ∧
      ∀ c : Compiler, c.render? g = c.render? (relative "Created" .last 30 .day) := by
  have bounded : (relative "Created" .last 30 .day).payload.Bounded := by
    rintro n ⟨⟩
    decide
  have read : ofJson? (relative "Created" .last 30 .day).toJson =
      some (relative "Created" .last 30 .day) := by decide
  exact ⟨_, read, ((render?_ofJson? bounded).2 _ read).2⟩

/-- An expression can list a number past all doubles, and its filter is stored but not read. -/
theorem ofJson?_past_doubles :
    ∃ f, Expression.parse "Age in (1e999)" = .ok ⟨[f], .and⟩ ∧ f.payload.Bounded ∧
      ofJson? f.toJson = none :=
  ⟨⟨.ofNat 1, "Age", none, false, none, .equal, .choice [.number (.infinite false)]⟩,
    by decide +kernel, trivial, by decide +kernel⟩

end Filter

end ODataQuery
