import ODataQuery.Proofs.Filter.Collection
import ODataQuery.Proofs.Listing.Turn

/-! The identities of the filters of a live list. Adding, removing and clearing keep them distinct, and
so do edits that leave a filter its identity. An edit may also give it another one, and then they stay
distinct just when no other filter has that one. -/
namespace ODataQuery

namespace Collection

/-- The change reaches the first filter with the identity and no other. -/
theorem modifyFirst_append {id : Guid} {front : List Filter} (others : ∀ g ∈ front, g.id ≠ id)
    {f : Filter} (found : f.id = id) (back : List Filter) (change : Filter → Filter) :
    modifyFirst id change (front ++ f :: back) = front ++ change f :: back := by
  induction front with
  | nil => rw [List.nil_append, modifyFirst, if_pos found, List.nil_append]
  | cons g front ih =>
    obtain ⟨other, others⟩ := List.forall_mem_cons.mp others
    rw [List.cons_append, modifyFirst, if_neg other, ih others, List.cons_append]

/-- After an edit the identities are distinct just when the filter kept its own or got one that no
filter has. -/
theorem nodup_ids_modify_iff {c : Collection} (distinct : c.ids.Nodup) {id : Guid} {f : Filter}
    (found : c.get? id = some f) (change : Filter → Filter) :
    (c.modify id change).ids.Nodup ↔ (change f).id = id ∨ (change f).id ∉ c.ids := by
  obtain ⟨same, front, back, filters, others⟩ := List.find?_eq_some_iff_append.mp found
  obtain rfl : f.id = id := by simpa using same
  have before : c.ids = front.map (·.id) ++ f.id :: back.map (·.id) := by
    rw [ids, filters, List.map_append, List.map_cons]
  have after : (c.modify f.id change).ids =
      front.map (·.id) ++ (change f).id :: back.map (·.id) := by
    have changed := modifyFirst_append (fun g member => by simpa using others g member) rfl back change
    rw [ids, modify, filters, changed, List.map_append, List.map_cons]
  rw [before, List.nodup_middle, List.nodup_cons] at distinct
  rw [after, List.nodup_middle, List.nodup_cons, and_iff_left distinct.2, before,
    List.perm_middle.mem_iff, List.mem_cons, not_or]
  by_cases kept : (change f).id = f.id
  · exact iff_of_true (kept ▸ distinct.1) (.inl kept)
  · simp only [kept, not_false_eq_true, true_and, false_or]

end Collection

namespace LiveList

variable {α : Type}

def ids (c : LiveList α) : List Guid := c.asked.filters.ids

/-- An edit gives a filter the identity of another one. -/
def Change.Collides (c : LiveList α) : Change → Prop
  | updateFilter id edit =>
    ∃ f, c.asked.filters.get? id = some f ∧ (edit f).id ≠ id ∧ (edit f).id ∈ c.ids
  | _ => False

theorem ids_filtersChanged (c : LiveList α) (urgent : Bool) :
    (c.filtersChanged urgent).1.ids = c.ids := by
  cases urgent <;> rfl

theorem nodup_ids_updateFilter_iff {c : LiveList α} (distinct : c.ids.Nodup) (id : Guid)
    (edit : Filter → Filter) : ((Change.updateFilter id edit).apply c).1.ids.Nodup ↔
      ¬ (Change.updateFilter id edit).Collides c := by
  simp only [Change.apply, updateFilter, Change.Collides]
  cases found : c.asked.filters.get? id with
  | none => simpa using distinct
  | some f =>
    have modified := Collection.nodup_ids_modify_iff distinct found edit
    simp only [Option.map_some, Option.getD_some, ids_filtersChanged, Option.some.injEq,
      exists_eq_left', not_and]
    exact modified.trans or_iff_not_imp_left

/-- Only an edit that gives a filter the identity of another one makes two filters share one. -/
theorem nodup_ids_apply_iff {c : LiveList α} (distinct : c.ids.Nodup) (change : Change) :
    (change.apply c).1.ids.Nodup ↔ ¬ change.Collides c := by
  obtain ⟨m, represents⟩ := Collection.Represents.exists_of_nodup distinct
  cases change with
  | updateFilter id edit => exact nodup_ids_updateFilter_iff distinct id edit
  | addFilter f =>
    refine iff_of_true ?_ not_false
    simp only [Change.apply, addFilter, ids_filtersChanged]
    exact (represents.add f).nodup
  | removeFilter id =>
    refine iff_of_true ?_ not_false
    simp only [Change.apply, removeFilter]
    cases c.asked.filters.get? id with
    | none => exact distinct
    | some f =>
      simp only [Option.map_some, Option.getD_some, ids_filtersChanged]
      exact (represents.remove id).nodup
  | clearFilters => exact iff_of_true .nil not_false
  | setCombinator | setSorts | setPage | setPageSize | scheduleReload | tick | wake =>
    exact iff_of_true distinct not_false

/-- An edit that gives the first filter the identity of the second one: only one of them is found
then, and taking that out shows the other. -/
example :
    let first := Guid.ofNat 1
    let second := Guid.ofNat 2
    let c : LiveList Unit :=
      { entitySet := "People", serviceRoot := "http://example.com"
        asked := { filters := .ofList [{ Filter.boolean "Active" true with id := first },
          { Filter.boolean "Retired" false with id := second }] } }
    let d := ((Change.updateFilter first fun f => { f with id := second }).apply c).1
    d.ids = [second, second] ∧ (d.asked.filters.get? second).map (·.field) = some "Active" ∧
      d.asked.filters.get? first = none ∧ (d.asked.filters.remove second).ids = [second] := by
  decide

def KeepsIdentities (events : List (Event α)) : Prop :=
  ∀ id edit notices, .changed (.updateFilter id edit) notices ∈ events →
    ∀ f, f.id = id → (edit f).id = id

theorem nodup_ids_step {c d : LiveList α} {e : Event α} (distinct : c.ids.Nodup)
    (step : Step c e d) (keeps : KeepsIdentities [e]) : d.ids.Nodup := by
  cases step with
  | change change =>
    refine (nodup_ids_apply_iff distinct change).mpr fun collides => ?_
    cases change with
    | updateFilter id edit =>
      obtain ⟨f, found, other, -⟩ := collides
      have named : f.id = id := by simpa using List.find?_some found
      exact other (keeps id edit _ List.mem_cons_self f named)
    | _ => exact collides
  | begin =>
    rw [ids, (sameAsked_beginReload c).asked]
    exact distinct
  | @finish r _ result =>
    rw [ids, (sameAsked_complete c r.sequence result).asked]
    exact distinct
  | dispose => exact distinct

/-- As long as edits leave filters their identities, no two filters ever share one. -/
theorem nodup_ids_run {start c : LiveList α} {events : List (Event α)}
    (distinct : start.ids.Nodup) (run : Run start events c) (keeps : KeepsIdentities events) :
    c.ids.Nodup := by
  induction run with
  | start => exact distinct
  | more before step ih =>
    refine nodup_ids_step (ih fun id edit notices member => ?_) step fun id edit notices member => ?_
    · exact keeps id edit notices (List.mem_append_left _ member)
    · exact keeps id edit notices (List.mem_append_right _ member)

end LiveList

end ODataQuery
