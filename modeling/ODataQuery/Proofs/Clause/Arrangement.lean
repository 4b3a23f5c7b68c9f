import ODataQuery.Proofs.Clause.Structure

/-! The arrangement of clauses. What is compiled are the texts of the filters that ask something,
each in its place, a path and an operator. Every place has one part of the clause, where its first
text stands. Which parts there are, and which texts are in them, does not depend on the order of the
filters, and a clause says the same in any order of these. -/
namespace ODataQuery

namespace Grouping

theorem eraseDups_append_of_subset {α : Type} [BEq α] [LawfulBEq α] {as bs : List α}
    (known : ∀ b ∈ bs, b ∈ as) : (as ++ bs).eraseDups = as.eraseDups := by
  have none : bs.removeAll as = [] := by
    rw [List.removeAll, List.filter_eq_nil_iff]
    intro b member
    simp [known b member]
  rw [List.eraseDups_append, none, List.eraseDups_nil, List.append_nil]

variable {κ α : Type} [DecidableEq κ] [DecidableEq α]

theorem grouped_append_of_subset {pairs more : List (κ × α)} (known : ∀ pair ∈ more, pair ∈ pairs) :
    grouped (pairs ++ more) = grouped pairs := by
  have sameKeys : keys (pairs ++ more) = keys pairs := by
    rw [keys, List.map_append]
    refine eraseDups_append_of_subset fun k member => ?_
    obtain ⟨pair, inside, rfl⟩ := List.mem_map.mp member
    exact List.mem_map_of_mem (known pair inside)
  have sameMembers (k : κ) : members (pairs ++ more) k = members pairs k := by
    rw [members, List.filter_append, List.map_append]
    refine eraseDups_append_of_subset fun a member => ?_
    obtain ⟨pair, inside, rfl⟩ := List.mem_map.mp member
    obtain ⟨inside, key⟩ := List.mem_filter.mp inside
    exact List.mem_map_of_mem (List.mem_filter.mpr ⟨known pair inside, key⟩)
  simp only [grouped, sameKeys, sameMembers]

/-- Whether groups under a combinator hold when `p` says which values do: a group holds when any of
its values does. -/
def holds (j : Combinator) (p : α → Bool) (groups : List (κ × List α)) : Bool :=
  match j with
  | .and => groups.all (·.2.any p)
  | .or => groups.any (·.2.any p)

theorem all_grouped_iff {p : α → Bool} {pairs : List (κ × α)} :
    (grouped pairs).all (·.2.any p) = true ↔
      ∀ k a, (k, a) ∈ pairs → ∃ b, (k, b) ∈ pairs ∧ p b = true := by
  simp only [grouped, List.all_map, List.all_eq_true, Function.comp_apply, List.any_eq_true,
    mem_keys, mem_members]
  constructor
  · intro each k a member
    exact each k ⟨a, member⟩
  · rintro each k ⟨a, member⟩
    exact each k a member

/-- It matters which pairs there are, and not in what order. -/
theorem holds_grouped_congr {pairs others : List (κ × α)}
    (same : ∀ pair, pair ∈ pairs ↔ pair ∈ others) (j : Combinator) (p : α → Bool) :
    holds j p (grouped pairs) = holds j p (grouped others) := by
  cases j with
  | and =>
    refine Bool.eq_iff_iff.mpr ?_
    simp only [holds, all_grouped_iff, same]
  | or =>
    refine Bool.eq_iff_iff.mpr ?_
    simp only [holds, any_grouped, List.any_eq_true, same]

end Grouping

open Expression (IsWord)
open Grouping

/-- What a group is written as: a single text as it is, several in parentheses. -/
def alternatives : List String → String
  | [only] => only
  | several => "(" ++ " or ".intercalate several ++ ")"

theorem Group.text_eq (g : Group) : g.text = alternatives (g.entry Fragment.text).2 := rfl

/-- Whether a clause holds when `v` says which of the texts in it do. -/
def Clause.holds (v : String → Bool) (c : Clause) : Bool :=
  Grouping.holds c.combinator v (c.groups.map (Group.entry Fragment.text))

namespace Compiler

variable (c : Compiler)

def renders (f : Filter) : Bool := (c.render? f).isSome

theorem rendered_filter (filters : List Filter) :
    c.rendered (filters.filter c.renders) = c.rendered filters := by
  rw [rendered, List.filterMap_filter]
  refine List.filterMap_congr fun f _ => ?_
  cases found : c.render? f <;> simp [renders, found]

theorem rendered_append (filters more : List Filter) :
    c.rendered (filters ++ more) = c.rendered filters ++ c.rendered more :=
  List.filterMap_append

theorem compileList_eq (filters : List Filter) (j : Combinator) :
    c.compileList filters j = j.separator.intercalate
      ((grouped (c.rendered filters)).map fun group => alternatives group.2) := by
  have parts : (c.clause filters j).groups.map Group.text =
      (grouped (c.rendered filters)).map fun group => alternatives group.2 := by
    rw [← c.entries_clause filters j, List.map_map]
    exact List.map_congr_left fun g _ => g.text_eq
  rw [compileList, Clause.text, parts]
  rfl

/-- Two lists of filters are compiled to clauses that say the same: both are empty or none is, and
whichever of their texts hold, both clauses hold or none does. Where the clauses are read, as those
are of filters that compile, their conditions hold under the same comparisons. -/
structure Alike (j : Combinator) (filters others : List Filter) : Prop where
  empty : (c.clause others j).groups = [] ↔ (c.clause filters j).groups = []
  holds (v : String → Bool) : (c.clause others j).holds v = (c.clause filters j).holds v
  read : (∀ f ∈ filters, c.Compiles f) → ∃ said other,
    Clause.Reads (c.compileList filters j) said ∧ Clause.Reads (c.compileList others j) other ∧
      ∀ v, other.map (Condition.holds v) = said.map (Condition.holds v)

variable {c}

theorem compileList_congr {filters others : List Filter} (j : Combinator)
    (same : filters.map (fun f => (c.place f, c.render? f)) =
      others.map fun f => (c.place f, c.render? f)) :
    c.compileList filters j = c.compileList others j := by
  have rendered (filters : List Filter) : c.rendered filters =
      (filters.map fun f => (c.place f, c.render? f)).filterMap fun entry =>
        entry.2.map (entry.1, ·) := by
    rw [List.filterMap_map]
    rfl
  rw [compileList_eq, compileList_eq, rendered, rendered, same]

/-- The text of a filter is that of the condition it describes. -/
theorem map_toList_render? {f : Filter} (allowed : Filter.Allowed f.operator f.payload) :
    (c.render? f).map String.toList =
      (f.condition? c.now (c.path f)).map Condition.source := by
  rw [render?, ← Filter.condition_ofFilter?, Option.map_map, Option.map_map]
  refine Option.map_congr fun fragment found => ?_
  exact Fragment.toList_text (Filter.sound_ofFilter? allowed found) (c.path f)

theorem render?_congr {f g : Filter} (allowedF : Filter.Allowed f.operator f.payload)
    (allowedG : Filter.Allowed g.operator g.payload)
    (same : f.condition? c.now (c.path f) = g.condition? c.now (c.path g)) :
    c.render? f = c.render? g := by
  have texts : (c.render? f).map String.toList = (c.render? g).map String.toList := by
    rw [map_toList_render? allowedF, map_toList_render? allowedG, same]
  exact Option.map_injective (fun _ _ => String.toList_inj.mp) texts

theorem groups_eq_nil_iff {filters : List Filter} {j : Combinator} :
    (c.clause filters j).groups = [] ↔ c.rendered filters = [] := by
  rw [← grouped_eq_nil_iff, ← c.entries_clause filters j, List.map_eq_nil_iff]

/-- The condition of filters holds as the groups of their conditions do. -/
theorem map_condition? (v : Atom → Bool) (filters : List Filter) (j : Combinator) :
    (c.condition? filters j).map (Condition.holds v) =
      if c.asked filters = [] then none
      else some (Grouping.holds j (Condition.holds v) (grouped (c.asked filters))) := by
  have joint : Condition.joint j v ((grouped (c.asked filters)).map fun group => .join .or group.2) =
      Grouping.holds j (Condition.holds v) (grouped (c.asked filters)) := by
    cases j <;>
      simp only [Condition.joint, Grouping.holds, List.all_map, List.any_map, Function.comp_def,
        Condition.holds_join]
  rw [condition?, Condition.map_joinAny?, joint]
  simp only [List.map_eq_nil_iff, grouped_eq_nil_iff]

theorem alike_of_perm {filters others : List Filter} (perm : filters.Perm others) (j : Combinator) :
    c.Alike j filters others where
  empty := by
    rw [groups_eq_nil_iff, groups_eq_nil_iff]
    have texts : (c.rendered filters).Perm (c.rendered others) := perm.filterMap _
    exact ⟨fun none => (none ▸ texts).eq_nil, fun none => (none ▸ texts.symm).eq_nil⟩
  holds v := by
    have texts : (c.rendered others).Perm (c.rendered filters) := perm.symm.filterMap _
    rw [Clause.holds, Clause.holds, entries_clause, entries_clause]
    exact holds_grouped_congr (fun _ => texts.mem_iff) j v
  read compiles := by
    have asked : (c.asked others).Perm (c.asked filters) := perm.symm.filterMap _
    refine ⟨_, _, c.reads_compileList j compiles, c.reads_compileList j ?_, fun v => ?_⟩
    · exact fun f member => compiles f (perm.mem_iff.mpr member)
    · have empty : c.asked others = [] ↔ c.asked filters = [] :=
        ⟨fun none => (none ▸ asked.symm).eq_nil, fun none => (none ▸ asked).eq_nil⟩
      rw [map_condition?, map_condition?, if_congr empty rfl rfl,
        holds_grouped_congr (fun _ => asked.mem_iff)]

/-- A clause has one part for each place of its filters. Filters that ask nothing have no part in it,
nor have texts that it has already in their places, and the order of the filters does not change what
it says. -/
theorem compileList_by_place (c : Compiler) (filters : List Filter) (j : Combinator) :
    c.compileList filters j = j.separator.intercalate
      ((grouped (c.rendered filters)).map fun group => alternatives group.2) ∧
    (∀ kept, kept.filter c.renders = filters.filter c.renders →
      c.compileList kept j = c.compileList filters j) ∧
    (∀ more, (∀ g ∈ more, ∀ text ∈ c.render? g,
        ∃ f ∈ filters, c.place f = c.place g ∧ text ∈ c.render? f) →
      c.compileList (filters ++ more) j = c.compileList filters j) ∧
    ∀ others, filters.Perm others → c.Alike j filters others := by
  refine ⟨c.compileList_eq filters j, fun kept same => ?_, fun more known => ?_, ?_⟩
  · rw [compileList_eq, compileList_eq, ← rendered_filter, same, rendered_filter]
  · have inside : ∀ pair ∈ c.rendered more, pair ∈ c.rendered filters := by
      rintro ⟨place, text⟩ member
      obtain ⟨g, memberG, rfl, text⟩ := mem_rendered.mp member
      obtain ⟨f, memberF, same, text⟩ := known g memberG _ text
      exact mem_rendered.mpr ⟨f, memberF, same, text⟩
    rw [compileList_eq, compileList_eq, rendered_append, grouped_append_of_subset inside]
  · exact fun _ perm => alike_of_perm perm j

/-- Two texts on one path with another clause between them, and a filter without a value. -/
def scattered : List Filter :=
  [⟨.nil, "Name", none, false, none, .equal, .text (some "a")⟩,
    ⟨.nil, "Size", none, false, none, .greater, .numbers (some (.zero false)) none⟩,
    ⟨.nil, "Size", none, false, none, .less, .numbers none none⟩,
    ⟨.nil, "Name", none, false, none, .equal, .text (some "b")⟩]

/-- The filters without the one that asks nothing, with one of them once more, and backwards. -/
theorem compileList_by_place_scattered :
    compileList ⟨⟨0, 0, by decide⟩, none⟩ (scattered.eraseIdx 2) .and =
        "(Name eq 'a' or Name eq 'b') and Size gt 0" ∧
      compileList ⟨⟨0, 0, by decide⟩, none⟩ (scattered ++ [scattered[3]]) .and =
        "(Name eq 'a' or Name eq 'b') and Size gt 0" ∧
      ∃ said other,
        Clause.Reads (compileList ⟨⟨0, 0, by decide⟩, none⟩ scattered .and) said ∧
        Clause.Reads (compileList ⟨⟨0, 0, by decide⟩, none⟩ scattered.reverse .and) other ∧
        ∀ v, other.map (Condition.holds v) = said.map (Condition.holds v) := by
  obtain ⟨-, fewer, more, order⟩ := compileList_by_place ⟨⟨0, 0, by decide⟩, none⟩ scattered .and
  have text : compileList ⟨⟨0, 0, by decide⟩, none⟩ scattered .and =
      "(Name eq 'a' or Name eq 'b') and Size gt 0" := by decide
  refine ⟨(fewer _ (by decide)).trans text, (more _ ?_).trans text, ?_⟩
  · simp only [List.forall_mem_singleton]
    exact fun text found => ⟨scattered[3], by simp, rfl, found⟩
  · refine (order _ (List.reverse_perm scattered).symm).read ?_
    have name : IsWord "Name".toList := by decide
    have size : IsWord "Size".toList := by decide
    simp only [scattered, List.forall_mem_cons]
    exact ⟨⟨by decide, name⟩, ⟨by decide, size⟩, ⟨by decide, size⟩, ⟨by decide, name⟩, by simp⟩

end Compiler

end ODataQuery
