import Mathlib.Data.List.Forall2
import ODataQuery.Proofs.Clause.Structure
import ODataQuery.Proofs.Expression.Conjunction
import ODataQuery.Proofs.Expression.Splitting

/-! The meaning of expressions. The clause of an expression says what its clauses say one by one,
all of them or any of them as the combinator has it, although compiling joins filters with the same
path and operator by `or`. -/
namespace ODataQuery

open Expression (IsWord Plain IsClause)
open Grouping

namespace Compiler

theorem condition?_eq_none_iff (c : Compiler) (filters : List Filter) (j : Combinator) :
    c.condition? filters j = none ↔ c.asked filters = [] := by
  rw [condition?, ← grouped_eq_nil_iff]
  cases grouped (c.asked filters) <;> simp [Condition.joinAny?]

/-- Any of the filters joined by `or`, in whatever groups they stand. -/
theorem any_condition? (c : Compiler) (filters : List Filter) (v : Atom → Bool) :
    (c.condition? filters .or).any (Condition.holds v) =
      (c.asked filters).any fun pair => pair.2.holds v := by
  rw [condition?, Condition.any_joinAny?, List.any_map, ← any_grouped]
  refine List.any_congr rfl fun group => ?_
  exact Condition.holds_join .or v group.2

/-- All of the filters joined by `and`, when no two of them share a path and an operator. -/
theorem all_condition? (c : Compiler) {filters : List Filter} (v : Atom → Bool)
    (distinct : ((c.asked filters).map Prod.fst).Nodup) :
    (c.condition? filters .and).all (Condition.holds v) =
      (c.asked filters).all fun pair => pair.2.holds v := by
  rw [condition?, grouped_of_nodup distinct, List.map_map, Condition.all_joinAny?, List.all_map]
  rfl

theorem condition?_singleton (c : Compiler) (f : Filter) (j : Combinator) :
    c.condition? [f] j = f.condition? c.now (c.path f) := by
  rw [condition?, asked, List.filterMap_cons, List.filterMap_nil]
  cases f.condition? c.now (c.path f) with
  | none => rfl
  | some said =>
    dsimp only [Option.map_some]
    rw [grouped_of_nodup (by simp)]
    rfl

end Compiler

namespace Expression

variable {now : Instant}

def said (now : Instant) (filters : List Filter) : List Condition :=
  filters.filterMap fun f => f.condition? now f.field

theorem all_said (filters : List Filter) (v : Atom → Bool) :
    (said now filters).all (Condition.holds v) = filters.all (·.satisfied now v) := by
  induction filters with
  | nil => rfl
  | cons f rest ih =>
    rw [said, List.filterMap_cons, List.all_cons, ← ih, Filter.satisfied]
    cases f.condition? now f.field <;> rfl

theorem said_eq_nil_iff (filters : List Filter) :
    said now filters = [] ↔ filters.any (·.asks now) = false := by
  rw [said, List.filterMap_eq_nil_iff, List.any_eq_false]
  refine forall₂_congr fun f _ => ?_
  simp [Filter.asks]

/-- A field that stands for itself is compared under the path that it has. -/
theorem Plain.path {field : String} {f : Filter} (plain : Plain field f) (c : Compiler) :
    c.path f = Path.effective field none c.resolver := by
  obtain ⟨_, _, rfl, -⟩ := plain
  rfl

theorem path_plain {field : String} {f : Filter} (plain : Plain field f) :
    Compiler.path ⟨now, none⟩ f = field := by
  rw [plain.path]
  simp [Path.effective]

theorem asked_plain {filters : List Filter} (plain : ∀ f ∈ filters, Plain f.field f) :
    Compiler.asked ⟨now, none⟩ filters =
      filters.filterMap fun f => (f.condition? now f.field).map (f.key, ·) := by
  refine List.filterMap_congr fun f member => ?_
  rw [path_plain (plain f member)]
  rfl

theorem map_asked {filters : List Filter} (plain : ∀ f ∈ filters, Plain f.field f) :
    (Compiler.asked ⟨now, none⟩ filters).map Prod.snd = said now filters := by
  rw [asked_plain plain, List.map_filterMap, said]
  refine List.filterMap_congr fun f _ => ?_
  cases f.condition? now f.field <;> rfl

theorem nodup_asked {filters : List Filter} (plain : ∀ f ∈ filters, Plain f.field f)
    (distinct : (filters.map Filter.key).Nodup) :
    ((Compiler.asked ⟨now, none⟩ filters).map Prod.fst).Nodup := by
  rw [asked_plain plain]
  refine distinct.sublist ?_
  clear plain distinct
  induction filters with
  | nil => exact .slnil
  | cons f rest ih =>
    rw [List.filterMap_cons, List.map_cons]
    cases f.condition? now f.field with
    | none => exact ih.cons _
    | some c => exact ih.cons_cons _

/-- Numbering filters changes nothing but their identities. -/
theorem filterMap_numbered (view : Filter → Option β)
    (blind : ∀ f id, view { f with id } = view f) (filters : List Filter) :
    (numbered filters).filterMap view = filters.filterMap view := by
  have shifted (id : Nat → Guid) :
      (filters.mapIdx fun i f => { f with id := id i }).filterMap view =
        filters.filterMap view := by
    induction filters generalizing id with
    | nil => rfl
    | cons f rest ih =>
      rw [List.mapIdx_cons, List.filterMap_cons, List.filterMap_cons, blind,
        ih fun i => id (i + 1)]
  exact shifted fun i => Guid.ofNat (i + 1)

theorem map_numbered {view : Filter → β} (blind : ∀ f id, view { f with id } = view f)
    (filters : List Filter) : (numbered filters).map view = filters.map view := by
  have kept := filterMap_numbered (some ∘ view) (fun f id => congrArg some (blind f id)) filters
  rwa [List.filterMap_eq_map] at kept

/-- Numbering keeps what holds of filters whatever their identities are. -/
theorem exists_numbered_iff {P : Filter → Prop} (blind : ∀ f id, P { f with id } ↔ P f)
    {filters : List Filter} : (∃ f ∈ numbered filters, P f) ↔ ∃ f ∈ filters, P f := by
  have same := map_numbered (fun f id => propext (blind f id)) filters
  have listed (filters : List Filter) : (∃ p ∈ filters.map P, p) ↔ ∃ f ∈ filters, P f := by
    simp only [List.mem_map, exists_exists_and_eq_and]
  rw [← listed, same, listed]

theorem condition?_numbered (c : Compiler) (filters : List Filter) (j : Combinator) :
    c.condition? (numbered filters) j = c.condition? filters j := by
  have asked : c.asked (numbered filters) = c.asked filters :=
    filterMap_numbered _ (fun _ _ => rfl) filters
  rw [Compiler.condition?, Compiler.condition?, asked]

/-- What a collection is compiled from fits its paths. -/
theorem compiles_numbered {filters : List Filter}
    (plain : ∀ f ∈ filters, Plain f.field f ∧ IsWord f.field.toList) :
    ∀ f ∈ numbered filters, Compiler.Compiles ⟨now, none⟩ f := by
  intro f member
  obtain ⟨i, bound, rfl⟩ := List.mem_mapIdx.mp member
  obtain ⟨isPlain, isWord⟩ := plain _ (List.getElem_mem bound)
  generalize filters[i] = f at isPlain isWord
  have path : Compiler.path ⟨now, none⟩ f = f.field := path_plain isPlain
  refine ⟨isPlain.allowed, ?_⟩
  change IsWord (Compiler.path ⟨now, none⟩ f).toList
  rwa [path]

/-- The clause of filters that one combinator joins says what they describe. -/
theorem reads_collection (now : Instant) {filters : List Filter} {collection : Collection}
    {j : Combinator}
    (plain : ∀ f ∈ filters, Plain f.field f ∧ IsWord f.field.toList)
    (h : collect j filters = .ok collection) :
    ∃ whole, Clause.Reads (Compiler.compile ⟨now, none⟩ collection) whole ∧
      (whole = none ↔ said now filters = []) ∧
      ∀ c ∈ whole, ∀ v, c.holds v = Condition.joint j v (said now filters) := by
  have plains : ∀ f ∈ filters, Plain f.field f := fun f member => (plain f member).1
  obtain ⟨result, rfl, gathered⟩ := exists_gathered plains h
  have words := gathered.words fun f member => (plain f member).2
  have compiles : ∀ g ∈ numbered result, Compiler.Compiles ⟨now, none⟩ g :=
    compiles_numbered fun g member => ⟨gathered.plain g member, words g member⟩
  refine ⟨_, Compiler.reads_compileList _ j compiles, ?_, ?_⟩
  · rw [condition?_numbered, Compiler.condition?_eq_none_iff, ← List.map_eq_nil_iff,
      map_asked gathered.plain, said_eq_nil_iff, said_eq_nil_iff, gathered.idle_iff]
  · intro c member v
    cases j with
    | or =>
      have any := Compiler.any_condition? ⟨now, none⟩ result v
      rw [← condition?_numbered, Option.mem_def.mp member] at any
      rw [Condition.joint, ← gathered.all rfl, ← map_asked gathered.plain, List.any_map]
      exact any
    | and =>
      have all := Compiler.all_condition? ⟨now, none⟩ v
        (nodup_asked gathered.plain (gathered.distinct rfl))
      rw [← condition?_numbered, Option.mem_def.mp member] at all
      have same := gathered.satisfied now v
      rw [← all_said, ← all_said] at same
      rw [Condition.joint, ← same, ← map_asked gathered.plain, List.all_map]
      exact all

theorem IsClause.plain {text : String} {f : Filter} (h : IsClause text f) :
    Plain f.field f ∧ IsWord f.field.toList := by
  obtain ⟨ts, scans, read⟩ := h
  obtain ⟨field, more, rfl, isPlain⟩ := clause_plain read
  have isWord := scans.isWord (List.mem_cons_self)
  obtain ⟨operator, payload, rfl, -⟩ := id isPlain
  exact ⟨isPlain, isWord⟩

/-- A clause on its own says what its filter describes. -/
theorem IsClause.reads {text : String} {f : Filter} (h : IsClause text f) :
    ∃ alone, parse text = .ok alone ∧
      Clause.Reads (Compiler.compile ⟨now, none⟩ alone) (f.condition? now f.field) := by
  obtain ⟨isPlain, isWord⟩ := h.plain
  obtain ⟨ts, scans, read⟩ := h
  have single : clauses ts = .ok (.and, [f]) :=
    clauses_eq_ok_iff.mpr ⟨f, [], none, [], read, moreClauses_nil none, rfl, rfl⟩
  refine ⟨⟨numbered [f], .and⟩, parse_eq_ok_iff.mpr ⟨ts, .and, [f], scans, single, rfl⟩, ?_⟩
  have compiles : ∀ g ∈ numbered [f], Compiler.Compiles ⟨now, none⟩ g :=
    compiles_numbered (by simpa using ⟨isPlain, isWord⟩)
  have reads := Compiler.reads_compileList ⟨now, none⟩ .and compiles
  rwa [condition?_numbered, Compiler.condition?_singleton, path_plain isPlain] at reads

theorem joint_said_singleton (f : Filter) (j k : Combinator) (v : Atom → Bool)
    (asks : said now [f] ≠ []) :
    Condition.joint j v (said now [f]) = Condition.joint k v (said now [f]) := by
  rw [said, List.filterMap_cons, List.filterMap_nil] at asks ⊢
  cases described : f.condition? now f.field with
  | none => simp [described] at asks
  | some c => cases j <;> cases k <;> simp [Condition.joint]

theorem plain_clauses {pieces : List String} {filters : List Filter}
    (h : List.Forall₂ IsClause pieces filters) :
    ∀ f ∈ filters, Plain f.field f ∧ IsWord f.field.toList := by
  induction h with
  | nil => simp
  | cons first _ ih => exact List.forall_mem_cons.mpr ⟨first.plain, ih⟩

/-- An expression says what its clauses say one by one, joined by its combinator. A clause that asks
nothing is left out, and without any other one the clause of the expression is empty. -/
theorem reads_parse {text : String} {collection : Collection}
    (accepted : parse text = .ok collection) (now : Instant) :
    (∃ pieces, Clauses collection.combinator text.toList pieces) ∧
      ∀ j pieces, Clauses j text.toList pieces → ∃ whole parts,
        Clause.Reads (Compiler.compile ⟨now, none⟩ collection) whole ∧
        List.Forall₂ (fun piece part => ∃ alone, parse piece = .ok alone ∧
          Clause.Reads (Compiler.compile ⟨now, none⟩ alone) part) pieces parts ∧
        (whole = none ↔ ∀ part ∈ parts, part = none) ∧
        ∀ c ∈ whole, ∀ v, c.holds v = Condition.joint j v (parts.filterMap id) := by
  refine ⟨exists_pieces accepted, ?_⟩
  intro j pieces split
  obtain ⟨filters, each, collected, single⟩ := split.collected accepted
  obtain ⟨whole, reads, empty, holds⟩ := reads_collection now (plain_clauses each) collected
  have parts : (filters.map fun g => g.condition? now g.field).filterMap id = said now filters :=
    List.filterMap_map
  refine ⟨whole, _, reads, List.forall₂_map_right_iff.mpr (each.imp fun _ _ h => h.reads), ?_, ?_⟩
  · rw [empty, ← parts, List.filterMap_eq_nil_iff]
    simp
  · intro c member v
    rw [holds c member v, parts]
    rcases single with rfl | ⟨f, rfl⟩
    · rfl
    · refine joint_said_singleton f _ j v fun none => ?_
      rw [empty.mpr none] at member
      cases member

/-- Two exclusions of one field become one filter, and the text still has two clauses. -/
theorem reads_parse_exclusions :
    parse "Name ne 'a' and Name ne 'b'" = .ok ⟨[⟨.ofNat 1, "Name", none, false, none, .notEqual,
        .choice [.text "a", .text "b"]⟩], .and⟩ ∧
      ∃ pieces, Clauses .and "Name ne 'a' and Name ne 'b'".toList pieces :=
  have accepted : parse "Name ne 'a' and Name ne 'b'" = .ok ⟨[⟨.ofNat 1, "Name", none, false, none,
      .notEqual, .choice [.text "a", .text "b"]⟩], .and⟩ := by decide +kernel
  ⟨accepted, (reads_parse accepted ⟨0, 0, by decide⟩).1⟩

end Expression

end ODataQuery
