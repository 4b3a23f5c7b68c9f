import Mathlib.Data.List.Basic
import ODataQuery.Proofs.Text.Parts
import ODataQuery.Sort

/-! Sort keys in the order of their indexes. Equal indexes keep the order in which their keys were
given, so that the order is settled by the keys, and by their set where all indexes differ. The order
clause of keys whose fields are single words is read as these keys, numbered through. -/
namespace ODataQuery.SortKey

/-- The same keys in ascending order of their indexes, of which those with one index keep the order they
had. -/
structure Ranked (keys ranked : List SortKey) : Prop where
  perm : ranked.Perm keys
  ascending : ranked.Pairwise (·.index ≤ ·.index)
  stable : ∀ index, ranked.filter (·.index = index) = keys.filter (·.index = index)

def named (keys : List SortKey) : List SortKey := keys.filter fun k => !Text.isBlankText k.field

theorem ranked_ordered (keys : List SortKey) : Ranked (named keys) (ordered keys) := by
  have trans (a b c : SortKey) : decide (a.index ≤ b.index) = true →
      decide (b.index ≤ c.index) = true → decide (a.index ≤ c.index) = true := by
    simpa using Nat.le_trans
  have total (a b : SortKey) : (decide (a.index ≤ b.index) || decide (b.index ≤ a.index)) = true := by
    simpa using Nat.le_total a.index b.index
  have perm : (ordered keys).Perm (named keys) := List.mergeSort_perm ..
  have ascending : (ordered keys).Pairwise fun a b => decide (a.index ≤ b.index) = true :=
    List.pairwise_mergeSort trans total (named keys)
  refine ⟨perm, by simpa using ascending, fun index => ?_⟩
  -- keys of one index are in order already, and sorting keeps what is in order
  let alike := (named keys).filter (·.index = index)
  have inOrder : alike.Pairwise fun a b => decide (a.index ≤ b.index) = true := by
    refine List.pairwise_iff_forall_sublist.mpr fun {a b} pair => ?_
    have first : a ∈ alike := pair.subset (by simp)
    have second : b ∈ alike := pair.subset (by simp)
    have same : a.index = index := by simpa using (List.mem_filter.mp first).2
    have same' : b.index = index := by simpa using (List.mem_filter.mp second).2
    simp [same, same']
  have kept : alike.Sublist (ordered keys) :=
    List.sublist_mergeSort trans total inOrder List.filter_sublist
  have kept := kept.filter (·.index = index)
  rw [List.filter_filter] at kept
  simp only [Bool.and_self] at kept
  exact (kept.eq_of_length (perm.filter _).length_eq.symm).symm

theorem mem_of_alike {a b : List SortKey}
    (alike : ∀ index, a.filter (·.index = index) = b.filter (·.index = index)) {k : SortKey}
    (member : k ∈ a) : k ∈ b := by
  have inside : k ∈ a.filter (·.index = k.index) := by simpa using member
  rw [alike] at inside
  exact (List.mem_filter.mp inside).1

/-- The first of ascending keys has the least index and is the first of that index. -/
theorem head_eq_of_ascending {k l : SortKey} {a b : List SortKey}
    (ascending : (k :: a).Pairwise (·.index ≤ ·.index))
    (ascending' : (l :: b).Pairwise (·.index ≤ ·.index))
    (alike : ∀ index, (k :: a).filter (·.index = index) = (l :: b).filter (·.index = index)) :
    k = l := by
  have low : l.index ≤ k.index := by
    rcases List.mem_cons.mp (mem_of_alike alike List.mem_cons_self) with rfl | member
    · exact Nat.le_refl _
    · exact (List.pairwise_cons.mp ascending').1 k member
  have high : k.index ≤ l.index := by
    rcases List.mem_cons.mp (mem_of_alike (fun i => (alike i).symm) List.mem_cons_self) with
      rfl | member
    · exact Nat.le_refl _
    · exact (List.pairwise_cons.mp ascending).1 l member
  have same : l.index = k.index := Nat.le_antisymm low high
  have heads := alike k.index
  rw [List.filter_cons_of_pos (by simp), List.filter_cons_of_pos (by simp [same])] at heads
  exact (List.cons.inj heads).1

/-- Ascending keys are settled by those of each index. -/
theorem eq_of_ascending {a b : List SortKey} (ascending : a.Pairwise (·.index ≤ ·.index))
    (ascending' : b.Pairwise (·.index ≤ ·.index))
    (alike : ∀ index, a.filter (·.index = index) = b.filter (·.index = index)) : a = b := by
  induction a generalizing b with
  | nil =>
    have none : b = [] := List.eq_nil_iff_forall_not_mem.mpr fun k member =>
      List.not_mem_nil (mem_of_alike (fun i => (alike i).symm) member)
    exact none.symm
  | cons k a ih =>
    cases b with
    | nil => exact absurd (mem_of_alike alike List.mem_cons_self) List.not_mem_nil
    | cons l b =>
      have first : k = l := head_eq_of_ascending ascending ascending' alike
      subst first
      have rest (i : Nat) : a.filter (·.index = i) = b.filter (·.index = i) := by
        have tails := alike i
        rw [List.filter_cons, List.filter_cons] at tails
        split at tails
        · exact (List.cons.inj tails).2
        · exact tails
      exact congrArg (k :: ·)
        (ih (List.pairwise_cons.mp ascending).2 (List.pairwise_cons.mp ascending').2 rest)

theorem Ranked.unique {keys a b : List SortKey} (h : Ranked keys a) (other : Ranked keys b) : a = b :=
  eq_of_ascending h.ascending other.ascending fun index =>
    (h.stable index).trans (other.stable index).symm

/-- Where all indexes differ the order in which keys are given has no part in their ranking. -/
theorem Ranked.of_perm {keys others ranked : List SortKey} (distinct : (keys.map index).Nodup)
    (moved : others.Perm keys) (h : Ranked others ranked) : Ranked keys ranked := by
  refine ⟨h.perm.trans moved, h.ascending, fun i => (h.stable i).trans ?_⟩
  have alike := moved.filter fun k => k.index = i
  have single := distinct.sublist ((List.filter_sublist (p := fun k => k.index = i)).map index)
  cases found : keys.filter (·.index = i) with
  | nil => rwa [found, List.perm_nil] at alike
  | cons k rest =>
    cases rest with
    | nil => rwa [found, List.perm_singleton] at alike
    | cons l rest =>
      have first : k.index = i := by
        simpa using List.of_mem_filter (found ▸ List.mem_cons_self : k ∈ keys.filter (·.index = i))
      have second : l.index = i := by
        simpa using List.of_mem_filter
          (found ▸ List.mem_cons_of_mem _ List.mem_cons_self : l ∈ keys.filter (·.index = i))
      rw [found] at single
      simp [first, second] at single

/-- The order clause of keys whose indexes all differ does not depend on the order they are given in. -/
theorem compile_perm {keys others : List SortKey} (resolver : Option Resolver)
    (distinct : ((named keys).map index).Nodup) (moved : others.Perm keys) :
    compile resolver others = compile resolver keys := by
  have ranked := (ranked_ordered others).of_perm distinct (moved.filter _)
  rw [compile, compile, ranked.unique (ranked_ordered keys)]

/-- A field that is one word when it is trimmed, and has no comma in it. -/
structure Simple (k : SortKey) : Prop where
  filled : Text.isBlankText k.field = false
  plain : ∀ c ∈ (Text.trim k.field).toList, c ≠ ',' ∧ Text.isBlank c = false

namespace Simple

variable {k : SortKey}

theorem ne_nil (simple : Simple k) : (Text.trim k.field).toList ≠ [] := by
  have filled := Text.isEmpty_trim k.field
  rw [simple.filled] at filled
  intro none
  rw [String.toList_eq_nil_iff.mp none] at filled
  cases filled

theorem trim_trim (simple : Simple k) : Text.trim (Text.trim k.field) = Text.trim k.field := by
  conv_lhs => rw [Text.trim, Text.trimChars_of_none fun c member => (simple.plain c member).2]
  exact String.ofList_toList

end Simple

theorem text_none (k : SortKey) :
    text none k = if k.descending then Text.trim k.field ++ " desc" else Text.trim k.field := by
  have path : Path.effective (Text.trim k.field) none none = Text.trim k.field := by
    rw [Path.effective]
    split <;> rfl
  rw [text, path]

/-- The item of a key is its field, behind which a word stands for a descending one. -/
theorem words_text {k : SortKey} (simple : Simple k) :
    Text.words (text none k) =
      Text.trim k.field :: if k.descending then ["desc"] else [] := by
  have plain c member := (simple.plain c member).2
  rw [text_none, Text.words]
  cases k.descending with
  | false =>
    rw [if_neg Bool.false_ne_true, Text.piecesFrom_of_none plain simple.ne_nil,
      String.ofList_toList]
    rfl
  | true =>
    rw [if_pos rfl, String.toList_append]
    refine (Text.piecesFrom_cons plain simple.ne_nil (by decide) "desc".toList).trans ?_
    rw [String.ofList_toList]
    rfl

def place (index : Nat) (k : SortKey) : SortKey := ⟨Text.trim k.field, index, k.descending⟩

theorem ofWords_text {k : SortKey} (simple : Simple k) (index : Nat) :
    ofWords index (Text.words (text none k)) = .ok (some (place index k)) := by
  rw [words_text simple, place]
  cases k.descending with
  | false => rfl
  | true =>
    have asc : Text.equalsIgnoringCase "desc" "asc" = false := by decide
    have desc : Text.equalsIgnoringCase "desc" "desc" = true := by decide
    simp [ofWords, asc, desc]

/-- Keys numbered through from zero, with their fields trimmed. -/
def numbered (keys : List SortKey) : List SortKey := keys.mapIdx place

theorem ofItems_text {keys : List SortKey} (simple : ∀ k ∈ keys, Simple k) {index : Nat}
    (few : index + keys.length < 4294967296) :
    ofItems index (keys.map (text none)) =
      .ok (keys.mapIdx fun i k => place (index + i) k) := by
  induction keys generalizing index with
  | nil => rfl
  | cons k rest ih =>
    obtain ⟨first, others⟩ := List.forall_mem_cons.mp simple
    rw [List.length_cons] at few
    have next : (index + 1) % 4294967296 = index + 1 := Nat.mod_eq_of_lt (by omega)
    have more : ofItems (index + 1) (rest.map (text none)) =
        .ok (rest.mapIdx fun i k => place (index + 1 + i) k) := ih others (by omega)
    have places : (k :: rest).mapIdx (fun i k => place (index + i) k) =
        place index k :: rest.mapIdx fun i k => place (index + 1 + i) k := by
      simp [List.mapIdx_cons, Nat.add_assoc, Nat.add_comm 1]
    rw [List.map_cons, ofItems, ofWords_text first, places]
    change (ofItems ((index + 1) % 4294967296) (rest.map (text none)) >>= fun more =>
      pure (place index k :: more)) = _
    rw [next, more]
    rfl

/-- The items of an order clause are the texts of its keys. -/
theorem split_intercalate {keys : List SortKey} (simple : ∀ k ∈ keys, Simple k) (some : keys ≠ []) :
    Text.split (· = ',') (",".intercalate (keys.map (text none))) = keys.map (text none) := by
  obtain ⟨k, rest, rfl⟩ := List.exists_cons_of_ne_nil some
  have plain : ∀ piece ∈ (text none k).toList :: rest.map (String.toList ∘ text none),
      ∀ c ∈ piece, decide (c = ',') = false := by
    have direction : ∀ c ∈ " desc".toList, decide (c = ',') = false := by simp
    rw [← Function.comp_apply (f := String.toList), ← List.map_cons]
    intro piece member c inside
    obtain ⟨l, listed, rfl⟩ := List.mem_map.mp member
    have field := (simple l listed).plain c
    rw [Function.comp_apply, text_none] at inside
    split at inside
    · rcases List.mem_append.mp (String.toList_append ▸ inside) with word | desc
      · exact decide_eq_false (field word).1
      · exact direction c desc
    · exact decide_eq_false (field inside).1
  have pieces := Text.splitChars_intercalate (c := ',') (by decide) plain
  rw [Text.split, String.toList_intercalate, List.map_map, List.map_cons]
  exact (congrArg (List.map String.ofList) pieces).trans (by simp)

theorem parse_intercalate {keys : List SortKey} (simple : ∀ k ∈ keys, Simple k)
    (few : keys.length < 4294967296) :
    parse [",".intercalate (keys.map (text none))] = .ok (numbered keys) := by
  rw [parse, List.flatMap_singleton]
  cases keys with
  | nil => rfl
  | cons k rest =>
    rw [split_intercalate simple (List.cons_ne_nil k rest), ofItems_text simple (by omega)]
    simp [numbered]

theorem exists_place {keys : List SortKey} {k : SortKey} (member : k ∈ numbered keys) :
    ∃ index, ∃ l ∈ keys, k = place index l := by
  obtain ⟨index, inside, rfl⟩ := List.mem_mapIdx.mp member
  exact ⟨index, keys[index], List.getElem_mem inside, rfl⟩

/-- Keys numbered through are in the order of their indexes. -/
theorem ordered_numbered {keys : List SortKey} (simple : ∀ k ∈ keys, Simple k) :
    ordered (numbered keys) = numbered keys := by
  have filled : (numbered keys).filter (fun k => !Text.isBlankText k.field) = numbered keys := by
    rw [List.filter_eq_self]
    intro k member
    obtain ⟨index, l, listed, rfl⟩ := exists_place member
    rw [place, Text.isBlankText_trim, (simple l listed).filled]
    rfl
  have ascending : (numbered keys).Pairwise fun a b => decide (a.index ≤ b.index) = true := by
    rw [List.pairwise_iff_getElem]
    intro i j inside inside' before
    simp only [numbered, List.getElem_mapIdx, place, decide_eq_true_eq]
    exact Nat.le_of_lt before
  rw [ordered, filled, List.mergeSort_of_pairwise ascending]

theorem text_place {k : SortKey} (simple : Simple k) (index : Nat) :
    text none (place index k) = text none k := by
  rw [text_none, text_none, place, simple.trim_trim]

theorem compile_numbered {keys : List SortKey} (simple : ∀ k ∈ keys, Simple k) :
    compile none (numbered keys) = ",".intercalate (keys.map (text none)) := by
  have texts : (numbered keys).map (text none) = keys.map (text none) := by
    refine List.ext_getElem (by simp [numbered]) fun i inside inside' => ?_
    simp only [numbered, List.getElem_map, List.getElem_mapIdx]
    exact text_place (simple _ (List.getElem_mem _)) i
  rw [compile, ordered_numbered simple, texts]

/-- The order clause of keys whose fields are single words without commas is read as these keys by
their indexes, numbered through, from which the same clause is made. Keys of one index keep their order
in it, and where all indexes differ it is the same for these keys in any order. -/
theorem parse_compile {keys : List SortKey} (few : keys.length < 4294967296)
    (plain : ∀ k ∈ keys, ∀ c ∈ (Text.trim k.field).toList, c ≠ ',' ∧ Text.isBlank c = false) :
    (∃ ranked, Ranked (named keys) ranked ∧
      compile none keys = ",".intercalate (ranked.map (text none)) ∧
      parse [compile none keys] = .ok (numbered ranked) ∧
      compile none (numbered ranked) = compile none keys) ∧
    ∀ others : List SortKey, others.Perm keys → ((named keys).map index).Nodup →
      compile none others = compile none keys := by
  have ranked := ranked_ordered keys
  have simple : ∀ k ∈ ordered keys, Simple k := by
    intro k member
    obtain ⟨listed, filled⟩ := List.mem_filter.mp (ranked.perm.mem_iff.mp member)
    exact ⟨by simpa using filled, plain k listed⟩
  have fewer : (ordered keys).length < 4294967296 :=
    calc (ordered keys).length = (named keys).length := ranked.perm.length_eq
      _ ≤ keys.length := List.length_filter_le ..
      _ < 4294967296 := few
  exact ⟨⟨ordered keys, ranked, rfl, parse_intercalate simple fewer, compile_numbered simple⟩,
    fun others moved distinct => compile_perm none distinct moved⟩

/-- Keys of which two share an index, one has blanks around its field, and one has no field. -/
def tied : List SortKey :=
  [⟨"Name", 7, true⟩, ⟨"\u3000Age ", 7, false⟩, ⟨" ", 0, false⟩, ⟨"Unit/Code", 2, false⟩]

theorem parse_compile_tied :
    tied.length < 4294967296 ∧
      (∀ k ∈ tied, ∀ c ∈ (Text.trim k.field).toList, c ≠ ',' ∧ Text.isBlank c = false) ∧
      compile none tied = "Unit/Code,Name desc,Age" ∧
      parse [compile none tied] =
        .ok [⟨"Unit/Code", 0, false⟩, ⟨"Name", 1, true⟩, ⟨"Age", 2, false⟩] := by
  have few : tied.length < 4294967296 := by decide
  have plain : ∀ k ∈ tied, ∀ c ∈ (Text.trim k.field).toList, c ≠ ',' ∧ Text.isBlank c = false := by
    have checked : (tied.all fun k => (Text.trim k.field).toList.all fun c =>
        c ≠ ',' && !Text.isBlank c) = true := by decide
    simpa using checked
  obtain ⟨⟨ranked, ranks, clause, read, -⟩, -⟩ := parse_compile few plain
  have filled : named tied = [tied[0], tied[1], tied[3]] := by decide
  rw [filled] at ranks
  have sorted : ranked = [tied[3], tied[0], tied[1]] := by
    refine ranks.unique ⟨by decide, by decide, fun index => ?_⟩
    simp only [tied, List.getElem_cons_zero, List.getElem_cons_succ, List.filter_cons]
    grind
  rw [sorted] at clause read
  exact ⟨few, plain, clause.trans (by decide), read.trans (by decide)⟩

end ODataQuery.SortKey
