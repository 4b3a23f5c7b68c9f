import Mathlib.Data.List.Nodup
import ODataQuery.Filter.Collection

/-! Collections are maps from identities to filters that remember the order in which their keys came.
The map is told without places: distinct keys in a row, and what is found under each of them. Each act
on a collection that represents a map leads to one that represents the map after the same act, and so
does any sequence of acts from the empty collection. -/
namespace ODataQuery

/-- A map that remembers in which order its keys came. -/
structure OrderedMap (κ α : Type) where
  keys : List κ
  value? : κ → Option α
  nodup : keys.Nodup
  isSome_value?_iff : ∀ k, (value? k).isSome = true ↔ k ∈ keys

namespace OrderedMap

variable {κ α : Type} [DecidableEq κ]

def empty : OrderedMap κ α := ⟨[], fun _ => none, .nil, fun _ => by simp⟩

/-- A key that is there keeps its place; a new one comes last. -/
def insert (m : OrderedMap κ α) (k : κ) (a : α) : OrderedMap κ α where
  keys := if k ∈ m.keys then m.keys else m.keys ++ [k]
  value? i := if i = k then some a else m.value? i
  nodup := by
    split
    · exact m.nodup
    · rename_i new
      exact List.nodup_append'.mpr ⟨m.nodup, List.nodup_singleton k, by simpa using new⟩
  isSome_value?_iff i := by
    have known := m.isSome_value?_iff i
    by_cases same : i = k
    · subst same
      by_cases old : i ∈ m.keys <;> simp [old]
    · by_cases old : k ∈ m.keys <;> simp [same, old, known]

def update (m : OrderedMap κ α) (k : κ) (change : α → α) : OrderedMap κ α where
  keys := m.keys
  value? i := if i = k then (m.value? i).map change else m.value? i
  nodup := m.nodup
  isSome_value?_iff i := by
    have known := m.isSome_value?_iff i
    split <;> simpa using known

def erase (m : OrderedMap κ α) (k : κ) : OrderedMap κ α where
  keys := m.keys.erase k
  value? i := if i = k then none else m.value? i
  nodup := m.nodup.erase k
  isSome_value?_iff i := by
    have known := m.isSome_value?_iff i
    rw [m.nodup.mem_erase_iff]
    split <;> simp_all

def ofList (entries : List (κ × α)) : OrderedMap κ α :=
  entries.foldl (fun m (k, a) => m.insert k a) empty

end OrderedMap

namespace Collection

theorem find?_put (f : Filter) (fs : List Filter) (id : Guid) :
    (put f fs).find? (·.id = id) = if id = f.id then some f else fs.find? (·.id = id) := by
  induction fs with
  | nil => by_cases same : id = f.id <;> simp [put, same, eq_comm]
  | cons g rest ih =>
    rw [put]
    by_cases found : g.id = f.id
    · by_cases same : id = f.id <;> simp_all [eq_comm]
    · by_cases first : g.id = id
      · have other : id ≠ f.id := first ▸ found
        simp [first, other]
      · simp [found, first, ih]

theorem map_id_put (f : Filter) (fs : List Filter) :
    (put f fs).map (·.id) =
      if f.id ∈ fs.map (·.id) then fs.map (·.id) else fs.map (·.id) ++ [f.id] := by
  induction fs with
  | nil => rfl
  | cons g rest ih =>
    rw [put]
    by_cases found : g.id = f.id
    · simp [found]
    · have apart : ¬ f.id = g.id := fun same => found same.symm
      rw [if_neg found, List.map_cons, ih]
      simp only [List.map_cons, List.mem_cons, apart, false_or]
      split <;> rfl

/-- A change that leaves a filter with this identity its identity. -/
structure Edit (id : Guid) where
  change : Filter → Filter
  id_change : ∀ f, f.id = id → (change f).id = id

theorem map_id_modifyFirst {id : Guid} (edit : Edit id) (fs : List Filter) :
    (modifyFirst id edit.change fs).map (·.id) = fs.map (·.id) := by
  induction fs with
  | nil => rfl
  | cons g rest ih =>
    rw [modifyFirst]
    split
    · rename_i found
      rw [List.map_cons, edit.id_change g found, List.map_cons, found]
    · rw [List.map_cons, ih, List.map_cons]

theorem find?_modifyFirst {id : Guid} (edit : Edit id) (fs : List Filter) (other : Guid) :
    (modifyFirst id edit.change fs).find? (·.id = other) =
      if other = id then (fs.find? (·.id = other)).map edit.change else fs.find? (·.id = other) := by
  induction fs with
  | nil => simp [modifyFirst]
  | cons g rest ih =>
    rw [modifyFirst]
    by_cases found : g.id = id
    · have kept := edit.id_change g found
      by_cases same : other = id
      · simp [found, same, kept]
      · have apart : ¬ id = other := fun h => same h.symm
        simp [found, same, apart, kept]
    · by_cases first : g.id = other
      · have apart : other ≠ id := first ▸ found
        simp [first, apart]
      · simp [found, first, ih]

theorem find?_eraseP {fs : List Filter} (distinct : (fs.map (·.id)).Nodup) (id other : Guid) :
    (fs.eraseP (·.id = id)).find? (·.id = other) =
      if other = id then none else fs.find? (·.id = other) := by
  induction fs with
  | nil => simp
  | cons g rest ih =>
    obtain ⟨new, distinct⟩ := List.nodup_cons.mp distinct
    by_cases found : g.id = id
    · rw [List.eraseP_cons_of_pos (by simpa using found)]
      split
      · rename_i same
        subst same
        refine List.find?_eq_none.mpr fun f member => ?_
        have apart : f.id ≠ g.id := fun same => new (List.mem_map.mpr ⟨f, member, same⟩)
        simpa [found] using apart
      · rename_i apart
        have passed : ¬ g.id = other := fun same => apart (same ▸ found)
        rw [List.find?_cons_of_neg (by simpa using passed)]
    · rw [List.eraseP_cons_of_neg (by simpa using found), List.find?_cons, ih distinct]
      by_cases first : g.id = other
      · have apart : other ≠ id := first ▸ found
        simp [first, apart]
      · simp [first]

theorem map_id_eraseP (fs : List Filter) (id : Guid) :
    (fs.eraseP (·.id = id)).map (·.id) = (fs.map (·.id)).erase id := by
  have same : (fun f : Filter => decide (f.id = id)) = (id == ·) ∘ (·.id) := by
    funext f
    exact decide_eq_decide.mpr eq_comm
  rw [List.erase_eq_eraseP, List.eraseP_map, same]

def ids (c : Collection) : List Guid := c.filters.map (·.id)

/-- The collection holds the filters of a map in the order of its keys. -/
structure Represents (c : Collection) (m : OrderedMap Guid Filter) : Prop where
  ids : c.ids = m.keys
  get? : ∀ id, c.get? id = m.value? id

namespace Represents

variable {c : Collection} {m : OrderedMap Guid Filter}

theorem nodup (h : c.Represents m) : c.ids.Nodup := h.ids ▸ m.nodup

/-- Distinct identities are all that it takes to be a map. -/
theorem exists_of_nodup (distinct : c.ids.Nodup) : ∃ m, c.Represents m := by
  refine ⟨⟨c.ids, c.get?, distinct, fun id => ?_⟩, rfl, fun _ => rfl⟩
  simp [Collection.get?, Collection.ids, List.find?_isSome]

theorem empty : Collection.empty.Represents .empty := ⟨rfl, fun _ => rfl⟩

theorem add (h : c.Represents m) (f : Filter) : (c.add f).Represents (m.insert f.id f) where
  ids := by
    have keys := map_id_put f c.filters
    rwa [← Collection.ids, h.ids] at keys
  get? id := by
    have found := find?_put f c.filters id
    rwa [← Collection.get?, h.get?] at found

theorem modify (h : c.Represents m) {id : Guid} (edit : Edit id) :
    (c.modify id edit.change).Represents (m.update id edit.change) where
  ids := by
    have keys := map_id_modifyFirst edit c.filters
    rwa [← Collection.ids, h.ids] at keys
  get? other := by
    have found := find?_modifyFirst edit c.filters other
    rwa [← Collection.get?, h.get?] at found

theorem remove (h : c.Represents m) (id : Guid) : (c.remove id).Represents (m.erase id) where
  ids := by
    have keys := map_id_eraseP c.filters id
    rwa [← Collection.ids, h.ids] at keys
  get? other := by
    have found := find?_eraseP h.nodup id other
    rwa [← Collection.get?, h.get?] at found

theorem clear (c : Collection) : c.clear.Represents .empty := ⟨rfl, fun _ => rfl⟩

theorem withCombinator (h : c.Represents m) (combinator : Combinator) :
    (c.withCombinator combinator).Represents m := ⟨h.ids, h.get?⟩

theorem ofList (fs : List Filter) :
    (Collection.ofList fs).Represents (.ofList (fs.map fun f => (f.id, f))) := by
  rw [Collection.ofList, OrderedMap.ofList, List.foldl_map]
  exact List.foldl_rel .empty fun f _ _ _ h => h.add f

end Represents

theorem combinator_ofList (fs : List Filter) : (ofList fs).combinator = .and := by
  refine List.foldlRecOn (motive := fun c : Collection => c.combinator = .and) fs add rfl ?_
  exact fun c same f _ => same

inductive Act
  | add (f : Filter)
  | edit (id : Guid) (e : Edit id)
  | remove (id : Guid)
  | clear
  | setCombinator (combinator : Combinator)
  /-- Gathers these filters, one by one, into a collection in place of the one before. -/
  | rebuild (fs : List Filter)

namespace Act

def apply (c : Collection) : Act → Collection
  | add f => c.add f
  | edit id e => c.modify id e.change
  | remove id => c.remove id
  | clear => c.clear
  | setCombinator combinator => c.withCombinator combinator
  | rebuild fs => ofList fs

def onMap (m : OrderedMap Guid Filter) : Act → OrderedMap Guid Filter
  | add f => m.insert f.id f
  | edit id e => m.update id e.change
  | remove id => m.erase id
  | clear => .empty
  | setCombinator _ => m
  | rebuild fs => .ofList (fs.map fun f => (f.id, f))

/-- Only two acts have to do with the combinator. -/
def onCombinator (combinator : Combinator) : Act → Combinator
  | setCombinator other => other
  | rebuild _ => .and
  | _ => combinator

def spares (id : Guid) : Act → Bool
  | add f => id ≠ f.id
  | edit other _ | remove other => id ≠ other
  | setCombinator _ => true
  | clear | rebuild _ => false

theorem combinator_apply (c : Collection) (act : Act) :
    (act.apply c).combinator = act.onCombinator c.combinator := by
  cases act with
  | rebuild fs => exact combinator_ofList fs
  | add | edit | remove | clear | setCombinator => rfl

/-- An act on a map leaves the entries that it is not about, and their order. -/
theorem onMap_spares (m : OrderedMap Guid Filter) (act : Act) :
    (∀ id, act.spares id = true → (act.onMap m).value? id = m.value? id) ∧
      (act.onMap m).keys.filter act.spares = m.keys.filter act.spares := by
  cases act with
  | add f =>
    refine ⟨fun id apart => if_neg (by simpa [spares] using apart), ?_⟩
    simp only [onMap, OrderedMap.insert]
    split
    · rfl
    · simp [spares]
  | edit id _ => exact ⟨fun other apart => if_neg (by simpa [spares] using apart), rfl⟩
  | remove id =>
    refine ⟨fun other apart => if_neg (by simpa [spares] using apart), ?_⟩
    simp only [onMap, OrderedMap.erase, m.nodup.erase_eq_filter, List.filter_filter]
    refine List.filter_congr fun other _ => ?_
    simp [spares]
  | setCombinator _ => exact ⟨fun _ _ => rfl, rfl⟩
  | clear | rebuild _ => simp [spares]

end Act

theorem Represents.apply {c : Collection} {m : OrderedMap Guid Filter} (h : c.Represents m)
    (act : Act) : (act.apply c).Represents (act.onMap m) := by
  cases act with
  | add f => exact h.add f
  | edit id e => exact h.modify e
  | remove id => exact h.remove id
  | clear => exact .clear c
  | setCombinator combinator => exact h.withCombinator combinator
  | rebuild fs => exact .ofList fs

/-- The collection after acts that begin with the empty one. -/
def run (acts : List Act) : Collection := acts.foldl Act.apply empty

def runMap (acts : List Act) : OrderedMap Guid Filter := acts.foldl Act.onMap .empty

theorem represents_run (acts : List Act) : (run acts).Represents (runMap acts) :=
  List.foldl_rel .empty fun act _ _ _ h => h.apply act

theorem combinator_run (acts : List Act) :
    (run acts).combinator = acts.foldl Act.onCombinator .and :=
  (List.foldl_hom combinator fun c act => (act.combinator_apply c).symm).symm

/-- After any acts the identities are distinct, the filters and their order are those of the map after
the same acts, and the combinator is the one set last; one more act leaves the filters that it is not
about and their order. -/
theorem run_as_map (acts : List Act) :
    (run acts).ids.Nodup ∧
      (run acts).ids = (runMap acts).keys ∧
      (∀ id, (run acts).get? id = (runMap acts).value? id) ∧
      (run acts).combinator = acts.foldl Act.onCombinator .and ∧
      ∀ act : Act,
        (∀ id, act.spares id = true → (act.apply (run acts)).get? id = (run acts).get? id) ∧
        (act.apply (run acts)).ids.filter act.spares = (run acts).ids.filter act.spares := by
  have now := represents_run acts
  refine ⟨now.nodup, now.ids, now.get?, combinator_run acts, fun act => ?_⟩
  have after := now.apply act
  obtain ⟨values, order⟩ := act.onMap_spares (runMap acts)
  constructor
  · intro id spared
    rw [after.get?, now.get?, values id spared]
  · rw [after.ids, now.ids, order]

end Collection

end ODataQuery
