import ODataQuery.Proofs.Entity.Paths
import ODataQuery.Settings.Addresses

/-! Named addresses stand in the order of their names, and are found by them. -/
namespace ODataQuery.Addresses

open Resolver (lookup_cons_entry)

/-- Each name stands once, behind all lesser ones. -/
def Ordered (s : Addresses) : Prop := s.entries.Pairwise (·.1 < ·.1)

variable {s : Addresses} {name address : String}

theorem Ordered.nodup (ordered : s.Ordered) : (s.entries.map (·.1)).Nodup := by
  refine List.pairwise_map.mpr (ordered.imp fun less same => ?_)
  rw [same] at less
  exact String.lt_irrefl _ less

theorem mem_of_lookup {entries : List (String × String)}
    (found : entries.lookup name = some address) : (name, address) ∈ entries := by
  induction entries with
  | nil => cases found
  | cons first rest ih =>
    obtain ⟨n, a⟩ := first
    rw [lookup_cons_entry] at found
    split at found
    case isTrue same => simp_all
    case isFalse => exact List.mem_cons_of_mem _ (ih found)

theorem mem_insertEntry {entries : List (String × String)} {e : String × String}
    (member : e ∈ insertEntry name address entries) : e = (name, address) ∨ e ∈ entries := by
  induction entries with
  | nil => exact .inl (List.mem_singleton.mp member)
  | cons first rest ih =>
    unfold insertEntry at member
    split at member
    · exact (List.mem_cons.mp member).imp_right (List.mem_cons_of_mem _)
    split at member
    · exact List.mem_cons.mp member
    · rcases List.mem_cons.mp member with rfl | later
      · exact .inr List.mem_cons_self
      · exact (ih later).imp_right (List.mem_cons_of_mem _)

theorem Ordered.insert (ordered : s.Ordered) (name address : String) :
    (s.insert name address).Ordered := by
  obtain ⟨entries⟩ := s
  unfold Ordered Addresses.insert at *
  induction entries with
  | nil => exact List.pairwise_singleton _ _
  | cons first rest ih =>
    obtain ⟨least, others⟩ := List.pairwise_cons.mp ordered
    simp only [insertEntry]
    split
    case isTrue same => exact List.pairwise_cons.mpr ⟨fun e member => same ▸ least e member, others⟩
    split
    case isTrue less =>
      refine List.pairwise_cons.mpr ⟨?_, ordered⟩
      intro e member
      rcases List.mem_cons.mp member with rfl | later
      · exact less
      · exact String.lt_trans less (least e later)
    case isFalse other notLess =>
      refine List.pairwise_cons.mpr ⟨?_, ih others⟩
      intro e member
      rcases mem_insertEntry member with rfl | later
      · exact Std.lt_of_le_of_ne notLess (Ne.symm other)
      · exact least e later

theorem ordered_ofList (entries : List (String × String)) : (ofList entries).Ordered := by
  have kept (s : Addresses) (ordered : s.Ordered) :
      (entries.foldl (fun s e => s.insert e.1 e.2) s).Ordered := by
    induction entries generalizing s with
    | nil => exact ordered
    | cons e rest ih => exact ih _ (ordered.insert e.1 e.2)
  exact kept {} .nil

theorem insertEntry_last {entries : List (String × String)} (greatest : ∀ e ∈ entries, e.1 < name) :
    insertEntry name address entries = entries ++ [(name, address)] := by
  induction entries with
  | nil => rfl
  | cons first rest ih =>
    obtain ⟨less, others⟩ := List.forall_mem_cons.mp greatest
    have other : name ≠ first.1 := fun same => String.lt_irrefl _ (same ▸ less)
    rw [insertEntry, if_neg other, if_neg (String.lt_asymm less), ih others, List.cons_append]

/-- Entries that stand in order are put where they stand. -/
theorem Ordered.ofList_entries (ordered : s.Ordered) : ofList s.entries = s := by
  obtain ⟨entries⟩ := s
  unfold Ordered at ordered
  dsimp only at ordered ⊢
  induction entries using List.reverseRecOn with
  | nil => rfl
  | append_singleton front e ih =>
    obtain ⟨before, -, less⟩ := List.pairwise_append.mp ordered
    have made : ofList (front ++ [e]) = (ofList front).insert e.1 e.2 := List.foldl_concat ..
    rw [made, ih before, Addresses.insert, insertEntry_last]
    exact fun first member => less first member e (List.mem_singleton_self e)

theorem find?_insert (s : Addresses) (name address key : String) :
    (s.insert name address).find? key = if key = name then some address else s.find? key := by
  obtain ⟨entries⟩ := s
  unfold find? Addresses.insert
  induction entries with
  | nil => exact lookup_cons_entry name address key []
  | cons first rest ih =>
    obtain ⟨n, a⟩ := first
    simp only [insertEntry]
    split
    case isTrue same =>
      rw [lookup_cons_entry, lookup_cons_entry, same]
      by_cases found : key = n <;> simp [found]
    split
    case isTrue => rw [lookup_cons_entry]
    case isFalse other _ =>
      rw [lookup_cons_entry, lookup_cons_entry, ih]
      by_cases found : key = n
      · simp [found, Ne.symm other]
      · simp [found]

/-- Putting an address where it stands changes nothing. -/
theorem Ordered.insert_self (ordered : s.Ordered) (found : s.find? name = some address) :
    s.insert name address = s := by
  suffices same : insertEntry name address s.entries = s.entries by rw [Addresses.insert, same]
  obtain ⟨entries⟩ := s
  unfold Ordered find? at *
  induction entries with
  | nil => cases found
  | cons first rest ih =>
    obtain ⟨n, a⟩ := first
    obtain ⟨least, others⟩ := List.pairwise_cons.mp ordered
    rw [lookup_cons_entry] at found
    by_cases same : name = n
    · simp_all [insertEntry]
    · rw [if_neg same] at found
      have greater : ¬ name < n := fun less =>
        String.lt_asymm less (least _ (mem_of_lookup found))
      simp [insertEntry, same, greater, ih others found]

end ODataQuery.Addresses
