import ODataQuery.Proofs.Clause.Arrangement
import ODataQuery.Proofs.Time.Moving

/-! Filters that ask nothing. A filter without a usable value has no part in a clause, and of the
others only a date filter whose bound lies beyond all instants has none; a clause is empty when none
of its filters has a part in it. -/
namespace ODataQuery

open Grouping

namespace Filter

/-- A filter on dates relative to now, of which the bound that is not now is no instant. -/
def OutOfReach (now : Instant) (f : Filter) : Prop :=
  f.operator.isNullary = false ∧ ∃ d amount, f.payload = .date d ∧ d.amount = some amount ∧
    (d.mode = .last ∧ now.OutOfReach d.unit (-amount) ∨
      d.mode = .next ∧ now.OutOfReach d.unit amount)

end Filter

namespace Fragment

theorem range?_eq_none_iff {low high : Option Literal} :
    range? low high = none ↔ low = none ∧ high = none := by
  cases low <;> cases high <;> simp [range?]

theorem range?_dates_eq_none_iff {r : DateRange} :
    range? (r.start.map .instant) (r.stop.map .instant) = none ↔ r.isOpen = true := by
  rw [range?_eq_none_iff]
  simp [DateRange.isOpen]

theorem ofChoice?_eq_none_iff {o : Operator} {selected : List Literal} :
    ofChoice? o selected = none ↔ selected.all Literal.isBlank = true := by
  have blank : selected.all Literal.isBlank = true ↔ selected.filter (!·.isBlank) = [] := by simp
  rw [blank, ofChoice?]
  split
  · simp [*]
  · simp [*]
  · rename_i some _
    simpa using some

/-- A date filter with a usable value is about dates unless these are out of reach. -/
theorem ofDate?_eq_none_iff {now : Instant} {f : Filter} {d : DateCondition}
    (date : f.payload = .date d) (plain : f.operator.isNullary = false)
    (active : f.isInert = false) :
    ofDate? now f.operator d = none ↔ f.OutOfReach now := by
  obtain ⟨value, mode, unit, amount, range⟩ := d
  simp only [Filter.isInert, plain, date, Bool.false_eq_true, if_false] at active
  have reach : f.OutOfReach now ↔ ∃ n, amount = some n ∧
      (mode = .last ∧ now.OutOfReach unit (-n) ∨ mode = .next ∧ now.OutOfReach unit n) := by
    simp [Filter.OutOfReach, plain, date]
  rw [reach]
  cases mode with
  | last =>
    cases amount with
    | none => simp at active
    | some n =>
      have moved := shift?_eq_none_iff now unit n false
      rw [if_neg Bool.false_ne_true, Option.eq_none_iff_forall_ne_some] at moved
      simpa [ofDate?, Option.bind_eq_none_iff, range?] using moved
  | next =>
    cases amount with
    | none => simp at active
    | some n =>
      have moved := shift?_eq_none_iff now unit n true
      rw [if_pos rfl, Option.eq_none_iff_forall_ne_some] at moved
      simpa [ofDate?, Option.bind_eq_none_iff, range?] using moved
  | range => simpa [ofDate?, range?_dates_eq_none_iff] using active
  | exact =>
    by_cases between : f.operator = .between
    · simpa [ofDate?, between, range?_dates_eq_none_iff] using active
    · cases value with
      | none => simp [between] at active
      | some t => simp [ofDate?, between]

/-- A filter with a usable value asks something unless it is about dates out of reach. -/
theorem ofFilter?_eq_none_iff {now : Instant} {f : Filter} :
    ofFilter? now f = none ↔ f.isInert = true ∨ f.OutOfReach now := by
  cases active : f.isInert with
  | true => simp [ofFilter?, active]
  | false =>
    cases plain : f.operator.isNullary with
    | true => simp [ofFilter?, active, plain, Filter.OutOfReach]
    | false =>
      have inert := active
      simp only [Filter.isInert, plain, Bool.false_eq_true, if_false] at inert
      simp only [ofFilter?, active, plain, Bool.false_eq_true, if_false, false_or]
      cases payload : f.payload with
      | date d => exact ofDate?_eq_none_iff payload plain active
      | text value => cases value <;> simp_all [Filter.OutOfReach]
      | numbers value secondary =>
        simp only [payload, Filter.hasUsable_eq] at inert
        by_cases between : f.operator = .between
        · simpa [between, range?_eq_none_iff, Filter.OutOfReach, payload,
            Option.isSome_iff_ne_none] using inert
        · simpa [between, Filter.OutOfReach, payload, Option.isSome_iff_ne_none] using inert
      | choice selected =>
        simp only [payload] at inert
        simp [ofChoice?_eq_none_iff, inert, Filter.OutOfReach, payload]

end Fragment

theorem Operator.write_ne_empty (o : Operator) (args : List String) : o.write args ≠ "" := by
  cases o <;>
    simp [write, template, comparison, call, Text.fillPieces, fill_plain]

theorem Fragment.text_ne_empty (path : String) (fragment : Fragment) : fragment.text path ≠ "" := by
  cases fragment with
  | nullary o => exact o.write_ne_empty _
  | single o v => exact o.write_ne_empty _
  | bounded low high => exact Operator.write_ne_empty _ _
  | anyOf operands => simp [text, joined]
  | noneOf operands => simp [text, joined]

namespace Compiler

variable {c : Compiler}

theorem ne_empty_of_render? {f : Filter} {text : String} (h : text ∈ c.render? f) : text ≠ "" := by
  obtain ⟨fragment, -, rfl⟩ := Option.map_eq_some_iff.mp h
  exact fragment.text_ne_empty (c.path f)

theorem alternatives_ne_empty {texts : List String} (each : ∀ text ∈ texts, text ≠ "") :
    alternatives texts ≠ "" := by
  unfold alternatives
  split
  · exact each _ (by simp)
  · simp

/-- A clause of filters of which one asks something is not empty. -/
theorem compileList_eq_empty_iff {filters : List Filter} {j : Combinator} :
    c.compileList filters j = "" ↔ c.rendered filters = [] := by
  rw [compileList_eq, ← grouped_eq_nil_iff]
  cases groups : grouped (c.rendered filters) with
  | nil => simp
  | cons group rest =>
    have texts : ∀ text ∈ group.2, text ≠ "" := by
      intro text member
      have inside : group ∈ grouped (c.rendered filters) := by simp [groups]
      obtain ⟨k, -, rfl⟩ := List.mem_map.mp inside
      obtain ⟨f, -, -, rendered⟩ := mem_rendered.mp (mem_members.mp member)
      exact ne_empty_of_render? rendered
    have first := alternatives_ne_empty texts
    rw [← String.toList_inj, List.map_cons, toList_intercalate_cons]
    simp [first]

/-- A filter has no part in a clause when it has no usable value, or when it is about dates that lie
beyond all instants; and a clause is empty when no filter has a part in it. -/
theorem skipped_iff (c : Compiler) :
    (∀ f, c.render? f = none ↔ f.isInert = true ∨ f.OutOfReach c.now) ∧
    ∀ filters j, c.compileList filters j = "" ↔ ∀ f ∈ filters, c.render? f = none := by
  refine ⟨fun f => ?_, fun filters j => ?_⟩
  · rw [render?, Option.map_eq_none_iff, Fragment.ofFilter?_eq_none_iff]
  · rw [compileList_eq_empty_iff, rendered, List.filterMap_eq_nil_iff]
    simp only [Option.map_eq_none_iff]

end Compiler

end ODataQuery
