import ODataQuery.Proofs.Expression.Meaning
import ODataQuery.Proofs.Filter.Stored

/-! The operator of a filter, from where the filter comes from on and through its edits. Making,
reading an expression and editing give operators that fit the values. Storage gives any operator with
any values, and such a pair lasts until the operator is changed. In a clause it shows in one case
only: a range over a text leaves the slot of its upper bound open. -/
namespace ODataQuery

open Text (Piece)

namespace Text.Piece

/-- A slot that none of the arguments fills. -/
def isOpen (args : List String) : Piece → Bool
  | plain _ => false
  | slot inner =>
    ((natWithin? 18446744073709551615 (String.ofList inner)).bind (args[·]?)).isNone

@[simp] theorem isOpen_plain (args : List String) (text : List Char) :
    (plain text).isOpen args = false := rfl

/-- An open slot stands in the filled template as it is written. -/
theorem fill_of_isOpen {args : List String} {p : Piece} (h : p.isOpen args = true) :
    p.fill args = p.source := by
  cases p with
  | plain text => cases h
  | slot inner =>
    have unfilled := Option.isNone_iff_eq_none.mp h
    rw [fill, unfilled]

/-- A piece that is not open is text of its own, or has an argument in its place. -/
theorem closed_cases {args : List String} {p : Piece} (h : p.isOpen args = false) :
    (∃ text, p = plain text) ∨ ∃ arg ∈ args, p.fill args = arg.toList := by
  cases p with
  | plain text => exact .inl ⟨text, rfl⟩
  | slot inner =>
    rw [isOpen, Option.isNone_eq_false_iff, Option.isSome_iff_exists] at h
    obtain ⟨arg, filled⟩ := h
    obtain ⟨i, -, place⟩ := Option.bind_eq_some_iff.mp filled
    refine .inr ⟨arg, List.mem_of_getElem? place, ?_⟩
    rw [fill, filled]

end Text.Piece

namespace Operator

/-- With these arguments a slot of the template stays open. -/
def LeavesSlot (o : Operator) (args : List String) : Prop :=
  ∃ p ∈ o.template, p.isOpen args = true

theorem leavesSlot_pair_iff {o : Operator} {a b : String} :
    o.LeavesSlot [a, b] ↔ o = .between := by
  have first : (slot '0').isOpen [a, b] = false := rfl
  have second : (slot '1').isOpen [a, b] = false := rfl
  have third : (slot '2').isOpen [a, b] = true := rfl
  cases o <;> simp [LeavesSlot, template, comparison, call, first, second, third]

theorem not_leavesSlot_nullary {o : Operator} (nullary : o.isNullary = true) (a : String) :
    ¬ o.LeavesSlot [a] := by
  have first : (slot '0').isOpen [a] = false := rfl
  cases o <;> simp [isNullary] at nullary <;> simp [LeavesSlot, template, first]

theorem not_leavesSlot_between (a b c : String) : ¬ between.LeavesSlot [a, b, c] := by
  have first : (slot '0').isOpen [a, b, c] = false := rfl
  have second : (slot '1').isOpen [a, b, c] = false := rfl
  have third : (slot '2').isOpen [a, b, c] = false := rfl
  simp [LeavesSlot, template, first, second, third]

/-- A range with one bound shows the slot of the other one. -/
theorem write_between_pair (a b : String) :
    between.write [a, b] = "(" ++ a ++ " ge " ++ b ++ " and " ++ a ++ " le \x7b2\x7d)" := by
  have third : (slot '2').fill [a, b] = ['{', '2', '}'] := Piece.fill_of_isOpen rfl
  rw [← String.toList_inj]
  simp [write, template, Text.fillPieces, fill_plain, fill_first, fill_second, third]

end Operator

namespace Fragment

/-- The operators that a fragment is written with, each with its arguments. -/
def writings (path : String) : Fragment → List (Operator × List String)
  | nullary o => [(o, [path])]
  | single o v => [(o, [path, v.render])]
  | bounded low high => [(.between, [path, low.render, high.render])]
  | anyOf operands => operands.map fun v => (.equal, [path, v.render])
  | noneOf operands => operands.map fun v => (.notEqual, [path, v.render])

/-- A text is all writings of a fragment: one alone, or several joined in parentheses. -/
def WrittenAs (path : String) (fragment : Fragment) (text : String) : Prop :=
  let written := (fragment.writings path).map fun (o, args) => o.write args
  written = [text] ∨ ∃ j : Combinator, text = "(" ++ j.separator.intercalate written ++ ")"

theorem writtenAs_text (path : String) (fragment : Fragment) :
    fragment.WrittenAs path (fragment.text path) := by
  cases fragment with
  | nullary | single | bounded => exact .inl rfl
  | anyOf operands => exact .inr ⟨.or, by simp [text, joined, writings, Combinator.separator]; rfl⟩
  | noneOf operands =>
    exact .inr ⟨.and, by simp [text, joined, writings, Combinator.separator]; rfl⟩

/-- A slot of some template that the fragment is written with stays open. -/
def LeavesSlot (path : String) (fragment : Fragment) : Prop :=
  ∃ w ∈ fragment.writings path, w.1.LeavesSlot w.2

theorem leavesSlot_single_iff {path : String} {o : Operator} {v : Literal} :
    (single o v).LeavesSlot path ↔ o = .between := by
  simp [LeavesSlot, writings, Operator.leavesSlot_pair_iff]

theorem not_leavesSlot_range? {path : String} {low high : Option Literal} {fragment : Fragment}
    (h : range? low high = some fragment) : ¬ fragment.LeavesSlot path := by
  cases low <;> cases high <;> cases h
  · rw [leavesSlot_single_iff]; decide
  · rw [leavesSlot_single_iff]; decide
  · simp [LeavesSlot, writings, Operator.not_leavesSlot_between]

theorem not_leavesSlot_ofDate? {path : String} {now : Instant} {o : Operator} {d : DateCondition}
    {fragment : Fragment} (h : ofDate? now o d = some fragment) : ¬ fragment.LeavesSlot path := by
  rcases Filter.ofDate?_cases h with ⟨low, high, bounds⟩ | ⟨single, t, rfl⟩
  · exact not_leavesSlot_range? bounds
  · rwa [leavesSlot_single_iff]

theorem not_leavesSlot_ofChoice? {path : String} {o : Operator} {selected : List Literal}
    {fragment : Fragment} (h : ofChoice? o selected = some fragment) :
    ¬ fragment.LeavesSlot path := by
  unfold ofChoice? at h
  split at h <;> cases h
  · rw [leavesSlot_single_iff]
    split <;> decide
  · split <;> simp [LeavesSlot, writings, Operator.leavesSlot_pair_iff]

end Fragment

namespace Filter

/-- The one filter that leaves a slot open: a range over a text. -/
theorem leavesSlot_ofFilter? {path : String} {now : Instant} {f : Filter} {fragment : Fragment}
    (h : Fragment.ofFilter? now f = some fragment) :
    fragment.LeavesSlot path ↔ f.operator = .between ∧ ∃ s, f.payload = .text (some s) := by
  unfold Fragment.ofFilter? at h
  split at h
  · cases h
  split at h
  · rename_i nullary
    cases h
    have single : f.operator ≠ .between := by
      rintro range
      rw [range] at nullary
      cases nullary
    simp [Fragment.LeavesSlot, Fragment.writings, Operator.not_leavesSlot_nullary nullary, single]
  · cases payload : f.payload <;> rw [payload] at h <;> dsimp only at h
    case text value =>
      obtain ⟨s, rfl, rfl⟩ := Option.map_eq_some_iff.mp h
      simp [Fragment.leavesSlot_single_iff]
    case numbers low high =>
      have closed : ¬ fragment.LeavesSlot path := by
        split at h
        · exact Fragment.not_leavesSlot_range? h
        · rename_i single
          obtain ⟨v, -, rfl⟩ := Option.map_eq_some_iff.mp h
          rwa [Fragment.leavesSlot_single_iff]
      simp [closed]
    case date d => simp [Fragment.not_leavesSlot_ofDate? h]
    case choice selected => simp [Fragment.not_leavesSlot_ofChoice? h]

theorem ofFilter?_between_text (now : Instant) {f : Filter} (range : f.operator = .between)
    {s : String} (value : f.payload = .text (some s)) (present : s ≠ "") :
    Fragment.ofFilter? now f = some (.single .between (.text s)) := by
  simp [Fragment.ofFilter?, isInert, range, value, present, Operator.isNullary]

/-- What a range over a text is written as: the slot of its upper bound is part of the text. -/
theorem render?_between_text (c : Compiler) {f : Filter} (range : f.operator = .between) {s : String}
    (value : f.payload = .text (some s)) (present : s ≠ "") :
    c.render? f = some ("(" ++ c.path f ++ " ge " ++ Literal.quote s ++ " and " ++ c.path f ++
      " le \x7b2\x7d)") := by
  rw [Compiler.render?, ofFilter?_between_text c.now range value present, Option.map_some,
    Fragment.text, Operator.write_between_pair]
  rfl

inductive Edit
  | named (id : Guid) (field : String) (property : Option String) (immediate : Bool)
      (label : Option String)
  | operator (operator : Operator)
  | value (edit : ValueEdit)

/-- The filter behind an edit. An edit that is refused leaves it as it is. -/
def edit (f : Filter) : Edit → Filter
  | .named id field property immediate label => { f with id, field, property, immediate, label }
  | .operator o => (f.setOperator o).toOption.getD f
  | .value edit => (f.editValue? edit).getD f

theorem allowedOperators_edit (f : Filter) (e : Edit) :
    (f.edit e).payload.allowedOperators = f.payload.allowedOperators := by
  cases e with
  | named => rfl
  | operator o =>
    by_cases fits : Allowed o f.payload <;> simp [edit, setOperator, fits, Except.toOption]
  | value e =>
    cases edited : f.editValue? e with
    | none => simp [edit, edited]
    | some g =>
      obtain ⟨payload, changed, rfl⟩ := Option.map_eq_some_iff.mp edited
      simp [edit, edited, ValueEdit.allowedOperators_change? changed]

/-- An edit leaves an operator that fits the values if there was one, or if it gives one. -/
theorem allowed_edit_iff (f : Filter) (e : Edit) :
    Allowed (f.edit e).operator (f.edit e).payload ↔
      Allowed f.operator f.payload ∨ ∃ o, e = .operator o ∧ Allowed o f.payload := by
  rw [Allowed, allowedOperators_edit]
  cases e with
  | named => simp [edit, Allowed]
  | operator o =>
    by_cases fits : Allowed o f.payload
    · have taken : (f.edit (.operator o)).operator = o := by
        simp [edit, setOperator, fits, Except.toOption]
      rw [taken]
      exact iff_of_true fits (.inr ⟨o, rfl, fits⟩)
    · have refused : f.edit (.operator o) = f := by
        simp [edit, setOperator, fits, Except.toOption]
      rw [refused]
      refine (or_iff_left ?_).symm
      rintro ⟨_, ⟨⟩, given⟩
      exact fits given
  | value e =>
    cases edited : f.editValue? e with
    | none => simp [edit, edited, Allowed]
    | some g =>
      obtain ⟨payload, changed, rfl⟩ := Option.map_eq_some_iff.mp edited
      simp [edit, edited, Allowed]

theorem allowed_foldl_edit_iff (f : Filter) (edits : List Edit) :
    Allowed (edits.foldl edit f).operator (edits.foldl edit f).payload ↔
      Allowed f.operator f.payload ∨ ∃ o, .operator o ∈ edits ∧ Allowed o f.payload := by
  induction edits generalizing f with
  | nil => simp
  | cons e rest ih =>
    have same (o : Operator) : Allowed o (f.edit e).payload ↔ Allowed o f.payload := by
      rw [Allowed, allowedOperators_edit]
      exact Iff.rfl
    rw [List.foldl_cons, ih, allowed_edit_iff, or_assoc]
    simp only [same, List.mem_cons, or_and_right, exists_or, eq_comm]

end Filter

/-- Filters of an expression could be made one by one. -/
theorem Expression.made_parse {text : String} {collection : Collection}
    (accepted : parse text = .ok collection) : ∀ f ∈ collection.filters, f.Made := by
  obtain ⟨pieces, split⟩ := exists_pieces accepted
  obtain ⟨filters, each, collected, -⟩ := split.collected accepted
  have plain : ∀ f ∈ filters, Plain f.field f := fun f member => (plain_clauses each f member).1
  obtain ⟨result, same, gathered⟩ := exists_gathered plain collected
  rw [same]
  intro f member
  obtain ⟨i, bound, rfl⟩ := List.mem_mapIdx.mp member
  obtain ⟨operator, payload, isPlain, allowed, -⟩ := gathered.plain _ (List.getElem_mem bound)
  have made : result[i].Made := .make (Filter.make_ok_iff.mpr ⟨allowed, isPlain⟩)
  exact .named _ _ _ _ _ made

namespace Filter

inductive Route
  | made
  | parsed
  | stored
  deriving DecidableEq

inductive Obtained : Route → Filter → Prop
  | made : f.Made → Obtained .made f
  | parsed {text : String} {collection : Collection} :
      Expression.parse text = .ok collection → f ∈ collection.filters → Obtained .parsed f
  | stored : ofJson? j = some f → Obtained .stored f

/-- Every way but storage gives an operator that fits the values. -/
theorem Obtained.allowed {route : Route} {f : Filter} (h : Obtained route f)
    (checked : route ≠ .stored) : Allowed f.operator f.payload := by
  cases h with
  | made made => exact made.allowed
  | parsed accepted member => exact (Expression.made_parse accepted f member).allowed
  | stored => exact absurd rfl checked

/-- Storage gives any operator, with all values that can be stored at all. -/
theorem obtained_stored {f : Filter} (bounded : f.payload.Bounded)
    (storable : f.payload.isStorable = true) : Obtained .stored f.settled :=
  .stored ((ofJson?_toJson bounded).trans (if_pos storable))

/-- What is known of the operator of a filter `g`, made of `f` by edits. -/
structure Kept (route : Route) (f : Filter) (edits : List Edit) (g : Filter) : Prop where
  checked : route ≠ .stored → Allowed g.operator g.payload
  /-- An operator that does not fit lasts until a change of the operator. -/
  allowed_iff : Allowed g.operator g.payload ↔
    Allowed f.operator f.payload ∨ ∃ o, .operator o ∈ edits ∧ Allowed o f.payload
  /-- An operator that fits leaves no slot open. -/
  closed : Allowed g.operator g.payload → ∀ (c : Compiler),
    ∀ fragment ∈ Fragment.ofFilter? c.now g, ¬ fragment.LeavesSlot (c.path g)
  /-- What is rendered are the templates of the operators, with an argument in the place of each slot
  that is not open. -/
  written (c : Compiler) : ∀ fragment ∈ Fragment.ofFilter? c.now g, ∃ text,
    c.render? g = some text ∧ fragment.WrittenAs (c.path g) text ∧
      ∀ w ∈ fragment.writings (c.path g), ∀ p ∈ w.1.template, p.isOpen w.2 = true ∨
        (∃ text, p = .plain text) ∨ ∃ arg ∈ w.2, p.fill w.2 = arg.toList
  /-- Of those that do not fit one leaves a slot open, with a text only. -/
  open_iff (c : Compiler) :
    (∃ fragment ∈ Fragment.ofFilter? c.now g, fragment.LeavesSlot (c.path g)) ↔
      g.operator = .between ∧ ∃ s, g.payload = .text (some s) ∧ s ≠ ""
  /-- The open slot is seen in the text. -/
  shown (c : Compiler) (s : String) :
    g.operator = .between → g.payload = .text (some s) → s ≠ "" →
      c.render? g = some ("(" ++ c.path g ++ " ge " ++ Literal.quote s ++ " and " ++ c.path g ++
        " le \x7b2\x7d)")

theorem not_allowed_between_text (s : Option String) : ¬ Allowed .between (.text s) := by
  simp [Allowed, Payload.allowedOperators, Operator.forText]

theorem exists_leavesSlot_iff (c : Compiler) (g : Filter) :
    (∃ fragment ∈ Fragment.ofFilter? c.now g, fragment.LeavesSlot (c.path g)) ↔
      g.operator = .between ∧ ∃ s, g.payload = .text (some s) ∧ s ≠ "" := by
  constructor
  · rintro ⟨fragment, rendered, leaves⟩
    obtain ⟨range, s, value⟩ := (leavesSlot_ofFilter? rendered).mp leaves
    refine ⟨range, s, value, ?_⟩
    rintro rfl
    simp [Fragment.ofFilter?, isInert, range, value, Operator.isNullary] at rendered
  · rintro ⟨range, s, value, present⟩
    have rendered := ofFilter?_between_text c.now range value present
    exact ⟨_, rendered, (leavesSlot_ofFilter? rendered).mpr ⟨range, s, value⟩⟩

/-- Whatever a filter comes from and whatever is done to it, its operator fits its values, or it was
stored with one that does not and never given another. -/
theorem kept_edits {route : Route} {f : Filter} (obtained : Obtained route f)
    (edits : List Edit) : Kept route f edits (edits.foldl edit f) := by
  have allowed := allowed_foldl_edit_iff f edits
  generalize edits.foldl edit f = g at allowed
  constructor
  case checked => exact fun checked => allowed.mpr (.inl (obtained.allowed checked))
  case allowed_iff => exact allowed
  case closed =>
    intro fits c fragment rendered leaves
    obtain ⟨range, s, value, -⟩ := (exists_leavesSlot_iff c g).mp ⟨fragment, rendered, leaves⟩
    rw [range, value] at fits
    exact not_allowed_between_text (some s) fits
  case written =>
    intro c fragment rendered
    refine ⟨fragment.text (c.path g), ?_, fragment.writtenAs_text _, ?_⟩
    · rw [Compiler.render?, Option.mem_def.mp rendered]
      rfl
    · intro w _ p _
      cases left : p.isOpen w.2 with
      | true => exact .inl rfl
      | false => exact .inr (Text.Piece.closed_cases left)
  case open_iff => exact fun c => exists_leavesSlot_iff c g
  case shown => exact fun c s range value present => render?_between_text c range value present

def storedRange : Json :=
  .object
    [("id", .string "00000000-0000-0000-0000-000000000001"), ("field", .string "Name"),
     ("property", .null), ("is_immediate", .bool false), ("ui", .object [("label", .null)]),
     ("operator", .string "Between"),
     ("kind", .object [("String", .object [("value", .string "x")])])]

def unfitRange : Filter :=
  ⟨.ofNat 1, "Name", none, false, none, .between, .text (some "x")⟩

/-- The stored range is read although its operator does not fit, and a change of the operator mends
it. -/
theorem kept_edits_range :
    ofJson? storedRange = some unfitRange ∧
      Kept .stored unfitRange [.value (.text (some "y")), .operator .contains]
        ⟨.ofNat 1, "Name", none, false, none, .contains, .text (some "y")⟩ :=
  have read : ofJson? storedRange = some unfitRange := by decide
  ⟨read, kept_edits (.stored read) [.value (.text (some "y")), .operator .contains]⟩

theorem render?_storedRange :
    ∃ f, ofJson? storedRange = some f ∧ ¬ Allowed f.operator f.payload ∧
      Compiler.render? ⟨⟨0, 0, by decide⟩, none⟩ f =
        some "(Name ge 'x' and Name le \x7b2\x7d)" :=
  ⟨unfitRange, by decide, by decide, by decide⟩

end Filter

end ODataQuery
