import Mathlib.Data.List.Nodup
import ODataQuery.Proofs.Expression.Meaning

/-! Fields with one path. Clauses joined by `and` are folded by the fields as they are written, and
compiled by the paths that these fields have. A resolver may give two fields one path; their clauses
are not folded then, and compiling joins them by `or`. -/
namespace ODataQuery

open Grouping

/-- Has a group of several fragments, which is written with `or` between them. -/
def Clause.JoinsByOr (c : Clause) : Prop := ∃ g ∈ c.groups, 1 < g.fragments.length

namespace Compiler

/-- Filters with one operator, on different fields that have one path. -/
def Aliased (c : Compiler) (f g : Filter) : Prop :=
  f.field ≠ g.field ∧ f.operator = g.operator ∧ c.path f = c.path g

theorem joinsByOr_clause_iff (c : Compiler) (filters : List Filter) (j : Combinator) :
    (c.clause filters j).JoinsByOr ↔ ∃ f ∈ filters, ∃ g ∈ filters, c.place f = c.place g ∧
      ∃ a ∈ c.render? f, ∃ b ∈ c.render? g, a ≠ b := by
  have groups : (c.clause filters j).JoinsByOr ↔
      ∃ group ∈ grouped (c.rendered filters), 1 < group.2.length := by
    rw [← c.entries_clause filters j, Clause.JoinsByOr]
    simp [Group.entry]
  rw [groups, exists_several_grouped]
  constructor
  · rintro ⟨k, a, b, memberA, memberB, other⟩
    obtain ⟨f, memberF, place, renderF⟩ := mem_rendered.mp memberA
    obtain ⟨g, memberG, same, renderG⟩ := mem_rendered.mp memberB
    exact ⟨f, memberF, g, memberG, place.trans same.symm, a, renderF, b, renderG, other⟩
  · rintro ⟨f, memberF, g, memberG, place, a, renderF, b, renderG, other⟩
    refine ⟨c.place f, a, b, ?_, ?_, other⟩
    · exact mem_rendered.mpr ⟨f, memberF, rfl, renderF⟩
    · exact mem_rendered.mpr ⟨g, memberG, place.symm, renderG⟩

/-- Among filters that differ in field or operator, only aliased ones have one place. -/
theorem place_eq_iff (c : Compiler) {filters : List Filter} {f g : Filter}
    (distinct : (filters.map Filter.key).Nodup) (memberF : f ∈ filters) (memberG : g ∈ filters) :
    c.place f = c.place g ↔ f = g ∨ c.Aliased f g := by
  constructor
  · intro place
    obtain ⟨path, operator⟩ := Prod.mk.inj place
    by_cases field : f.field = g.field
    · have key : f.key = g.key := Prod.ext field operator
      exact .inl (List.inj_on_of_nodup_map distinct memberF memberG key)
    · exact .inr ⟨field, operator, path⟩
  · rintro (rfl | ⟨-, operator, path⟩)
    · rfl
    · exact Prod.ext path operator

theorem nodup_place_iff (c : Compiler) {filters : List Filter}
    (distinct : (filters.map Filter.key).Nodup) :
    (filters.map c.place).Nodup ↔ ∀ f ∈ filters, ∀ g ∈ filters, ¬ c.Aliased f g := by
  rw [List.nodup_map_iff_inj_on (distinct.of_map _)]
  constructor
  · intro apart f memberF g memberG aliased
    obtain ⟨other, operator, path⟩ := aliased
    exact other (congrArg Filter.field (apart f memberF g memberG (Prod.ext path operator)))
  · intro apart f memberF g memberG place
    exact ((c.place_eq_iff distinct memberF memberG).mp place).resolve_right
      (apart f memberF g memberG)

end Compiler

namespace Expression

/-- The filters of an expression that `and` joins differ in field or operator, and have no paths of
their own. -/
theorem apart_parse {text : String} {collection : Collection}
    (accepted : parse text = .ok collection) (conjoined : collection.combinator = .and) :
    (collection.filters.map Filter.key).Nodup ∧ ∀ f ∈ collection.filters, f.property = none := by
  obtain ⟨pieces, split⟩ := exists_pieces accepted
  obtain ⟨filters, each, collected, -⟩ := split.collected accepted
  have plain : ∀ f ∈ filters, Plain f.field f := fun f member => (plain_clauses each f member).1
  obtain ⟨result, same, gathered⟩ := exists_gathered plain collected
  rw [same]
  refine ⟨?_, fun f member => ?_⟩
  · rw [map_numbered (fun _ _ => rfl)]
    exact gathered.distinct conjoined
  · rw [same] at member
    have property : f.property ∈ (numbered result).map Filter.property := List.mem_map_of_mem member
    rw [map_numbered (fun _ _ => rfl)] at property
    obtain ⟨g, inside, same⟩ := List.mem_map.mp property
    obtain ⟨_, _, isPlain, -⟩ := gathered.plain g inside
    rw [← same, isPlain]

/-- Without a resolver no two clauses that `and` joins are compiled to alternatives. -/
theorem not_joinsByOr_parse {text : String} {collection : Collection}
    (accepted : parse text = .ok collection) (conjoined : collection.combinator = .and)
    (now : Instant) : ¬ (Compiler.clause ⟨now, none⟩ collection.filters .and).JoinsByOr := by
  obtain ⟨distinct, bare⟩ := apart_parse accepted conjoined
  rw [Compiler.joinsByOr_clause_iff]
  rintro ⟨f, memberF, g, memberG, place, a, renderF, b, renderG, other⟩
  rcases (Compiler.place_eq_iff _ distinct memberF memberG).mp place with rfl | ⟨field, -, path⟩
  · exact other (Option.mem_unique renderF renderG)
  · refine field ?_
    simpa [Compiler.path, Path.effective, bare f memberF, bare g memberG] using path

/-- Clauses that `and` joins share a place just when a resolver makes two of their fields one path,
and are compiled to alternatives just when they also ask for different things there. -/
theorem joinsByOr_parse_iff {text : String} {collection : Collection}
    (accepted : parse text = .ok collection) (conjoined : collection.combinator = .and)
    (c : Compiler) :
    (¬ (collection.filters.map c.place).Nodup ↔
      ∃ f ∈ collection.filters, ∃ g ∈ collection.filters, c.Aliased f g) ∧
    ((c.clause collection.filters collection.combinator).JoinsByOr ↔
      ∃ f ∈ collection.filters, ∃ g ∈ collection.filters, c.Aliased f g ∧
        ∃ a ∈ c.render? f, ∃ b ∈ c.render? g, a ≠ b) := by
  obtain ⟨distinct, -⟩ := apart_parse accepted conjoined
  refine ⟨?_, ?_⟩
  · rw [c.nodup_place_iff distinct]
    push Not
    rfl
  rw [c.joinsByOr_clause_iff]
  constructor
  · rintro ⟨f, memberF, g, memberG, place, a, renderF, b, renderG, other⟩
    refine ⟨f, memberF, g, memberG, ?_, a, renderF, b, renderG, other⟩
    refine ((c.place_eq_iff distinct memberF memberG).mp place).resolve_left ?_
    rintro rfl
    exact other (Option.mem_unique renderF renderG)
  · rintro ⟨f, memberF, g, memberG, aliased, more⟩
    have place := (c.place_eq_iff distinct memberF memberG).mpr (.inr aliased)
    exact ⟨f, memberF, g, memberG, place, more⟩

/-- Names are looked up without regard to case, and folded with regard to it. -/
def titles : Resolver := .ofList [("Dept", "Department.Title")]

def aliases : Collection :=
  ⟨[⟨.ofNat 1, "Dept", none, false, none, .equal, .text (some "a")⟩,
    ⟨.ofNat 2, "dept", none, false, none, .equal, .text (some "b")⟩], .and⟩

theorem joinsByOr_aliases :
    parse "Dept eq 'a' and dept eq 'b'" = .ok aliases ∧
      (Compiler.clause ⟨⟨0, 0, by decide⟩, some titles⟩ aliases.filters .and).JoinsByOr := by
  have accepted : parse "Dept eq 'a' and dept eq 'b'" = .ok aliases := by decide +kernel
  refine ⟨accepted, (joinsByOr_parse_iff accepted rfl _).2.mpr ?_⟩
  refine ⟨_, List.mem_cons_self, _, List.mem_cons_of_mem _ List.mem_cons_self, ?_, ?_⟩
  · exact ⟨by decide, rfl, by decide⟩
  · exact ⟨"Department.Title eq 'a'", by decide, "Department.Title eq 'b'",
      by decide, by decide⟩

/-- Both clauses of this text are meant to hold, and its compilation asks for one of them. -/
theorem compile_aliases :
    ∃ collection, parse "Dept eq 'a' and dept eq 'b'" = .ok collection ∧
      collection.combinator = .and ∧
      Compiler.compile ⟨⟨0, 0, by decide⟩, some titles⟩ collection =
        "(Department.Title eq 'a' or Department.Title eq 'b')" ∧
      ¬ (collection.filters.map (Compiler.place ⟨⟨0, 0, by decide⟩, some titles⟩)).Nodup :=
  ⟨aliases, by decide +kernel, rfl, by decide +kernel, by decide +kernel⟩

end Expression

end ODataQuery
