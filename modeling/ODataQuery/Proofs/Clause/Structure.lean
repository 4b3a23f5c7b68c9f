import Mathlib.Data.List.Basic
import ODataQuery.Proofs.Clause.Grouping

/-! The structure of clauses. Whatever values filters hold, their clause is read back as the
condition that they describe together: no value reaches beyond the token it is written as. -/
namespace ODataQuery

open Expression (IsWord Scans)
open Grouping

/-- The text of a clause is read as this condition; without one it is empty. -/
def Clause.Reads (text : String) (said : Option Condition) : Prop :=
  (said = none ↔ text = "") ∧
    ∃ placed, Expression.tokenize text = .ok placed ∧
      Condition.read? (placed.map Expression.Placed.token) = some said

namespace Compiler

/-- The filters that ask something: each with its key and its condition. -/
def asked (c : Compiler) (filters : List Filter) : List ((String × Operator) × Condition) :=
  filters.filterMap fun f => (f.condition? c.now (c.path f)).map ((c.path f, f.operator), ·)

/-- The condition of filters that a combinator joins. Those with the same path and operator form a
group in the place of the first of them, which any of its different conditions satisfies. -/
def condition? (c : Compiler) (filters : List Filter) (j : Combinator) : Option Condition :=
  Condition.joinAny? j ((grouped (c.asked filters)).map fun group => .join .or group.2)

def Compiles (c : Compiler) (f : Filter) : Prop :=
  Filter.Allowed f.operator f.payload ∧ IsWord (c.path f).toList

theorem viewed_condition (c : Compiler) (filters : List Filter) :
    c.viewed Fragment.condition filters = c.asked filters := by
  refine List.filterMap_congr fun f _ => ?_
  rw [← Filter.condition_ofFilter?, Option.map_map]
  rfl

/-- The tokens of a clause, read with the usual precedence, are the condition of its filters. -/
theorem compileList_scans (c : Compiler) {filters : List Filter} (j : Combinator)
    (compiles : ∀ f ∈ filters, c.Compiles f) :
    (∃ ts, Scans (c.compileList filters j).toList ts [] ∧
      Condition.read? ts = some (c.condition? filters j)) ∧
    (c.condition? filters j = none → c.compileList filters j = "") := by
  have readable : ∀ f ∈ filters, ∀ fragment ∈ Fragment.ofFilter? c.now f,
      Fragment.Readable (c.path f) fragment := fun f member fragment found =>
    ⟨(compiles f member).2, Filter.sound_ofFilter? (compiles f member).1 found⟩
  obtain ⟨sound, entries⟩ := c.foldl_addFilter Group.faithful_condition readable
  have conditions : c.condition? filters j =
      Condition.joinAny? j ((filters.foldl c.addFilter []).map Group.condition) := by
    rw [condition?, ← viewed_condition, ← entries, List.map_map]
    rfl
  rw [conditions, compileList, clause, Clause.text]
  generalize filters.foldl c.addFilter [] = groups at sound
  cases groups with
  | nil => exact ⟨⟨[], .done, rfl⟩, fun _ => rfl⟩
  | cons g rest =>
    refine ⟨?_, fun none => by cases none⟩
    obtain ⟨first, others⟩ := List.forall_mem_cons.mp sound
    have proper : ∀ d ∈ rest.map Group.condition, d.Proper := by
      intro d member
      obtain ⟨h, inside, rfl⟩ := List.mem_map.mp member
      exact Group.proper_condition (others h inside)
    have text : (j.separator.intercalate ((g :: rest).map Group.text)).toList =
        g.condition.source ++ Condition.moreSource j (rest.map Group.condition) := by
      rw [List.map_cons, toList_intercalate_cons, Group.toList_text first, Condition.moreSource_eq,
        List.flatMap_map, List.flatMap_map, List.flatMap_def, List.flatMap_def]
      refine congrArg (_ ++ List.flatten ·) (List.map_congr_left fun h member => ?_)
      rw [Group.toList_text (others h member)]
    have apart : Expression.Apart [] := by simp [Expression.Apart]
    obtain ⟨apartRest, scansRest⟩ := Condition.scans_more (j := j)
      (fun d member _ => (proper d member).scans) apart
    have scansFirst := (Group.proper_condition first).scans apartRest
    refine ⟨_, ?_, Condition.read?_parts (List.forall_mem_cons.mpr
      ⟨Group.proper_condition first, proper⟩)⟩
    rw [text]
    simpa using scansFirst.append scansRest

theorem reads_compileList (c : Compiler) {filters : List Filter} (j : Combinator)
    (compiles : ∀ f ∈ filters, c.Compiles f) :
    Clause.Reads (c.compileList filters j) (c.condition? filters j) := by
  obtain ⟨⟨ts, scans, read⟩, empty⟩ := c.compileList_scans j compiles
  refine ⟨⟨empty, fun bare => ?_⟩, ?_⟩
  · rw [bare, String.toList_empty] at scans
    rw [scans.unique .done] at read
    exact (Option.some.inj read).symm
  · obtain ⟨placed, tokenized, rfl⟩ := Expression.tokenize_iff.mpr scans
    exact ⟨placed, tokenized, read⟩

/-- A clause always has tokens, and they say what the filters of the clause describe. -/
theorem tokenize_compileList (c : Compiler) (filters : List Filter) (j : Combinator)
    (made : ∀ f ∈ filters, f.Made) (words : ∀ f ∈ filters, IsWord (c.path f).toList) :
    ∃ placed, Expression.tokenize (c.compileList filters j) = .ok placed ∧
      Condition.read? (placed.map Expression.Placed.token) = some (c.condition? filters j) := by
  have reads := c.reads_compileList j fun f member => ⟨(made f member).allowed, words f member⟩
  exact reads.2

/-- A quote inside a text does not end it, and a range keeps its parentheses. -/
theorem tokenize_quote_and_range :
    ∃ placed,
      Expression.tokenize (compileList ⟨⟨0, 0, by decide⟩, none⟩
        [⟨.nil, "Name", none, false, none, .equal, .text (some "x' or (1 eq 1")⟩,
          .between "Price" (.zero false) (.zero true)] .and) = .ok placed ∧
      Condition.read? (placed.map Expression.Placed.token) =
        some (some (.joined .and
          [.atom ⟨.equal, "Name", .quoted "x' or (1 eq 1"⟩,
            .joined .and [.atom ⟨.greaterOrEqual, "Price", .word "0"⟩,
              .atom ⟨.lessOrEqual, "Price", .word "0"⟩]])) := by
  refine tokenize_compileList _ _ _ ?_ ?_
  · simp only [List.forall_mem_cons]
    exact ⟨.make (Filter.make_ok_iff.mpr ⟨by decide, rfl⟩), .between "Price" _ _, by simp⟩
  · simp only [List.forall_mem_cons]
    have name : IsWord "Name".toList := by decide
    have price : IsWord "Price".toList := by decide
    exact ⟨name, price, by simp⟩

end Compiler

end ODataQuery
