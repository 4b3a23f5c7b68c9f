import Mathlib.Data.List.Induction
import Mathlib.Data.List.Nodup
import ODataQuery.Clause.Basic
import ODataQuery.Entity.Column
import ODataQuery.Sort

/-! The paths of columns. A filter on a column carries the path as its property and a sort key finds it
by the name of the column; both come to the path of the descriptor that the column was made from. -/
namespace ODataQuery

namespace Resolver

theorem lookup_cons_entry (key path other : String) (rest : List (String × String)) :
    ((key, path) :: rest).lookup other = if other = key then some path else rest.lookup other := by
  rw [List.lookup_cons]
  by_cases same : other = key
  · rw [if_pos same, beq_iff_eq.mpr same]
  · rw [if_neg same, beq_eq_false_iff_ne.mpr same]

theorem lookup_setEntry (key path other : String) (entries : List (String × String)) :
    (setEntry key path entries).lookup other =
      if other = key then some path else entries.lookup other := by
  induction entries with
  | nil => exact lookup_cons_entry key path other []
  | cons entry rest ih =>
    obtain ⟨k, p⟩ := entry
    rw [setEntry, lookup_cons_entry]
    by_cases known : k = key
    · rw [if_pos known, lookup_cons_entry, known]
      by_cases same : other = key <;> simp [same]
    · rw [if_neg known, lookup_cons_entry, ih]
      by_cases found : other = k <;> simp [found, known]

theorem resolve?_insert (r : Resolver) (name path other : String) :
    (r.insert name path).resolve? other =
      if Text.lower other = Text.lower name then some path else r.resolve? other :=
  lookup_setEntry ..

/-- The last of the paths that were given to a name counts. -/
theorem resolve?_ofList (pairs : List (String × String)) (name : String) :
    (ofList pairs).resolve? name =
      (pairs.reverse.find? fun p => Text.lower name = Text.lower p.1).map Prod.snd := by
  induction pairs using List.reverseRecOn with
  | nil => rfl
  | append_singleton pairs p ih =>
    have last : ofList (pairs ++ [p]) = (ofList pairs).insert p.1 p.2 := List.foldl_concat ..
    rw [last, resolve?_insert, ih, List.reverse_append, List.reverse_singleton,
      List.singleton_append, List.find?_cons]
    by_cases same : Text.lower name = Text.lower p.1 <;> simp [same]

/-- Names that differ in more than case keep their paths apart. -/
theorem resolve?_of_mem {pairs : List (String × String)} {name path : String}
    (distinct : (pairs.map fun p => Text.lower p.1).Nodup) (member : (name, path) ∈ pairs) :
    (ofList pairs).resolve? name = some path := by
  rw [resolve?_ofList]
  cases found : pairs.reverse.find? fun p => Text.lower name = Text.lower p.1 with
  | none =>
    have missing := List.find?_eq_none.mp found _ (List.mem_reverse.mpr member)
    simp at missing
  | some p =>
    have inside : p ∈ pairs := List.mem_reverse.mp (List.mem_of_find?_eq_some found)
    have alike : Text.lower name = Text.lower p.1 := by simpa using List.find?_some found
    rw [List.inj_on_of_nodup_map distinct inside member alike.symm]
    rfl

end Resolver

/-- A property that is the path found by name makes no difference, concrete or not. -/
theorem Path.effective_of_resolve? {field path : String} {property : Option String} {r : Resolver}
    (found : r.resolve? field = some path) (same : ∀ p ∈ property, p = path) :
    Path.effective field property (some r) =
      if Path.hasGuidSegment field then field else path := by
  have byName : ((some r).bind (·.resolve? field)).getD field = path := by
    rw [Option.bind_some, found, Option.getD_some]
  rw [Path.effective]
  split
  · rfl
  · split
    · rename_i concrete
      exact same _ (Option.filter_eq_some_iff.mp concrete).1
    · exact byName

namespace SortKey

theorem compile_singleton (r : Option Resolver) {field : String}
    (filled : Text.isBlankText field = false) (index : Nat) (descending : Bool) :
    compile r [⟨field, index, descending⟩] = text r ⟨field, index, descending⟩ := by
  simp [compile, ordered, filled]

end SortKey

namespace Entity

/-- Names without blanks around them, which differ in more than case. -/
structure WellNamed (e : Entity) : Prop where
  filled : ∀ f ∈ e.fields, Text.isBlankText f.name = false
  trimmed : ∀ f ∈ e.fields, Text.trim f.name = f.name
  distinct : (e.fields.map fun f => Text.lower f.name).Nodup

end Entity

namespace Descriptor

theorem name_ofField (f : Field) : (ofField f).name = f.name := by
  unfold ofField
  dsimp only
  split
  · split <;> rfl
  · rfl

theorem exists_field {e : Entity} {selection : Selection} {d : Descriptor}
    (member : d ∈ resolve e selection) : ∃ f ∈ e.fields, d = ofField f := by
  obtain ⟨f, kept, rfl⟩ := List.mem_map.mp member
  exact ⟨f, (List.mem_filter.mp kept).1, rfl⟩

/-- The columns of an entity find their paths by their names. -/
theorem resolve?_columns {e : Entity} (distinct : (e.fields.map fun f => Text.lower f.name).Nodup)
    {selection : Selection} {d : Descriptor} (member : d ∈ resolve e selection) :
    (Column.resolver ((resolve e selection).map Column.ofDescriptor)).resolve? d.name =
      some d.path := by
  refine Resolver.resolve?_of_mem ?_ ?_
  · have names : ((resolve e selection).map fun d => Text.lower d.name) =
        (e.fields.filter fun f => !selection.excludes f.name).map fun f => Text.lower f.name := by
      simp [resolve, name_ofField]
    have kept := List.filter_sublist (p := fun f => !selection.excludes f.name) (l := e.fields)
    rw [List.map_map, List.map_map]
    exact names ▸ distinct.sublist (kept.map _)
  · rw [List.map_map]
    exact List.mem_map.mpr ⟨d, member, rfl⟩

/-- A filter on a column and a sort key with its name are compiled to the same path, which is the one
of the descriptor unless the name has an identifier in it. -/
theorem paths_of_column {e : Entity} (named : e.WellNamed) (selection : Selection) :
    let columns := (resolve e selection).map Column.ofDescriptor
    ∀ d ∈ resolve e selection, ∀ now : Instant,
      let path := Compiler.path ⟨now, some (Column.resolver columns)⟩ (Column.ofDescriptor d).filter
      (∀ index descending, SortKey.compile (some (Column.resolver columns))
        [⟨(Column.ofDescriptor d).name, index, descending⟩] =
          if descending then path ++ " desc" else path) ∧
      path = if Path.hasGuidSegment d.name then d.name else d.path := by
  intro columns d member now path
  obtain ⟨f, field, rfl⟩ := exists_field member
  have found := resolve?_columns named.distinct member
  have name : (ofField f).name = f.name := name_ofField f
  have filled : Text.isBlankText (ofField f).name = false := name ▸ named.filled f field
  have trimmed : Text.trim (ofField f).name = (ofField f).name := by
    rw [name, named.trimmed f field]
  have filtered : path = if Path.hasGuidSegment (ofField f).name then (ofField f).name
      else (ofField f).path :=
    Path.effective_of_resolve? found (by rintro p ⟨⟩; rfl)
  refine ⟨fun index descending => ?_, filtered⟩
  have sorted : Path.effective (Text.trim (ofField f).name) none
      (some (Column.resolver columns)) = path := by
    rw [trimmed, filtered]
    exact Path.effective_of_resolve? found (by simp)
  exact (SortKey.compile_singleton _ filled index descending).trans
    (if_congr Iff.rfl (congrArg (· ++ " desc") sorted) sorted)

/-- Departments are shown by their titles. The other name has an identifier in it. -/
def staff : Entity :=
  ⟨"Employee",
    [{ name := "Department"
       type := .nested "Department" [{ name := "Code", type := .text },
        { name := "Title", type := .text }] },
     { name := "3f2504e0-4f89-11d3-9a0c-0305e82c3301"
       type := .nested "Rate" [{ name := "Name", type := .text }] }]⟩

theorem paths_of_column_nested :
    staff.WellNamed ∧ ∃ department rate, resolve staff {} = [department, rate] ∧
      let compiler : Compiler :=
        ⟨⟨0, 0, by decide⟩, some (Column.resolver ([department, rate].map Column.ofDescriptor))⟩
      SortKey.compile compiler.resolver [⟨"Department", 3, true⟩] = "Department.Title desc" ∧
      compiler.path (Column.ofDescriptor rate).filter = "3f2504e0-4f89-11d3-9a0c-0305e82c3301" := by
  have named : staff.WellNamed := ⟨by decide, by decide, by decide⟩
  have paths := paths_of_column named {}
  have resolved : ∃ department rate, resolve staff {} = [department, rate] ∧
      department.name = "Department" ∧ department.path = "Department.Title" ∧
      rate.name = "3f2504e0-4f89-11d3-9a0c-0305e82c3301" :=
    ⟨_, _, rfl, by decide, by decide, by decide⟩
  obtain ⟨department, rate, resolved, name, path, identifier⟩ := resolved
  rw [resolved] at paths
  obtain ⟨sorted, shown⟩ := paths department (by simp) ⟨0, 0, by decide⟩
  obtain ⟨-, kept⟩ := paths rate (by simp) ⟨0, 0, by decide⟩
  refine ⟨named, department, rate, resolved, ?_, ?_⟩
  · have plain : Path.hasGuidSegment "Department" = false := by decide
    rw [name, plain] at shown
    have compiled := sorted 3 true
    rw [shown, path] at compiled
    rw [← name]
    exact compiled
  · have guid : Path.hasGuidSegment "3f2504e0-4f89-11d3-9a0c-0305e82c3301" = true := by
      decide
    rw [identifier, guid] at kept
    exact kept

end Descriptor

end ODataQuery
