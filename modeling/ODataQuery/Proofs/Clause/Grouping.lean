import Mathlib.Data.List.Induction
import ODataQuery.Proofs.Filter.Made

/-! Grouping: filters that share a path and an operator stand where the first of them stands. The
groups that compiling builds step by step are those of the finished list. -/
namespace ODataQuery

open Expression (IsWord Scans)

namespace Grouping

variable {κ α : Type} [DecidableEq κ]

def keys (pairs : List (κ × α)) : List κ := (pairs.map Prod.fst).eraseDups

def members [DecidableEq α] (pairs : List (κ × α)) (k : κ) : List α :=
  ((pairs.filter (·.1 = k)).map Prod.snd).eraseDups

def grouped [DecidableEq α] (pairs : List (κ × α)) : List (κ × List α) :=
  (keys pairs).map fun k => (k, members pairs k)

def insertNew [DecidableEq α] (a : α) (as : List α) : List α := if a ∈ as then as else as ++ [a]

def put [DecidableEq α] (k : κ) (a : α) : List (κ × List α) → List (κ × List α)
  | [] => [(k, [a])]
  | (l, as) :: rest => if l = k then (l, insertNew a as) :: rest else (l, as) :: put k a rest

theorem eraseDups_concat [DecidableEq α] [BEq α] [LawfulBEq α] (as : List α) (a : α) :
    (as ++ [a]).eraseDups = insertNew a as.eraseDups := by
  rw [List.eraseDups_append, insertNew]
  by_cases member : a ∈ as <;> simp [List.removeAll, List.eraseDups_cons, member]

theorem nodup_insertNew [DecidableEq α] {as : List α} (h : as.Nodup) (a : α) :
    (insertNew a as).Nodup := by
  unfold insertNew
  split
  · exact h
  · rename_i absent
    refine List.nodup_append.mpr ⟨h, by simp, ?_⟩
    rintro b member c single rfl
    exact absent (List.mem_singleton.mp single ▸ member)

theorem nodup_eraseDups [BEq α] [LawfulBEq α] (as : List α) : as.eraseDups.Nodup := by
  have := Classical.decEq α
  induction as using List.reverseRecOn with
  | nil => exact List.nodup_nil
  | append_singleton as a ih =>
    rw [eraseDups_concat]
    exact nodup_insertNew ih a

theorem nodup_keys (pairs : List (κ × α)) : (keys pairs).Nodup := nodup_eraseDups _

theorem keys_concat (pairs : List (κ × α)) (k : κ) (a : α) :
    keys (pairs ++ [(k, a)]) = insertNew k (keys pairs) := by
  rw [keys, List.map_append, List.map_singleton, eraseDups_concat, keys]

theorem mem_keys {pairs : List (κ × α)} {k : κ} : k ∈ keys pairs ↔ ∃ a, (k, a) ∈ pairs := by
  simp [keys, List.mem_eraseDups]

variable [DecidableEq α]

theorem members_concat (pairs : List (κ × α)) (k l : κ) (a : α) :
    members (pairs ++ [(k, a)]) l =
      if l = k then insertNew a (members pairs l) else members pairs l := by
  unfold members
  by_cases same : l = k
  · subst same
    simp [eraseDups_concat]
  · have other : k ≠ l := fun h => same h.symm
    simp [same, other]

theorem put_cons_of_ne {k : κ} {a : α} {first : κ × List α} {rest : List (κ × List α)}
    (other : first.1 ≠ k) : put k a (first :: rest) = first :: put k a rest := by
  obtain ⟨l, as⟩ := first
  exact if_neg other

theorem put_map {ks : List κ} (distinct : ks.Nodup) (k : κ) (a : α) (values : κ → List α)
    (absent : k ∉ ks → values k = []) :
    put k a (ks.map fun l => (l, values l)) =
      (insertNew k ks).map fun l => (l, if l = k then insertNew a (values l) else values l) := by
  induction ks with
  | nil => simp [put, insertNew, absent]
  | cons l ks ih =>
    obtain ⟨fresh, distinct⟩ := List.nodup_cons.mp distinct
    by_cases same : l = k
    · subst same
      have others : ks.map (fun m => (m, if m = l then insertNew a (values m) else values m)) =
          ks.map fun m => (m, values m) := by
        refine List.map_congr_left fun m member => ?_
        have other : m ≠ l := fun same => fresh (same ▸ member)
        rw [if_neg other]
      have known : insertNew l (l :: ks) = l :: ks := by simp [insertNew]
      rw [known, List.map_cons, List.map_cons, others, put, if_pos rfl, if_pos rfl]
    · have tail := ih distinct fun missing =>
        absent fun member => missing ((List.mem_cons.mp member).resolve_left fun h => same h.symm)
      have insert : insertNew k (l :: ks) = l :: insertNew k ks := by
        have other : k ≠ l := fun h => same h.symm
        unfold insertNew
        by_cases member : k ∈ ks <;> simp [member, other]
      rw [List.map_cons, put, if_neg same, tail, insert, List.map_cons, if_neg same]

theorem members_of_not_mem {pairs : List (κ × α)} {k : κ} (h : k ∉ keys pairs) :
    members pairs k = [] := by
  have none : pairs.filter (·.1 = k) = [] := by
    rw [List.filter_eq_nil_iff]
    intro pair member same
    refine h (List.mem_eraseDups.mpr (List.mem_map.mpr ⟨pair, member, ?_⟩))
    simpa using same
  rw [members, none]
  rfl

theorem foldl_put (pairs : List (κ × α)) :
    pairs.foldl (fun table pair => put pair.1 pair.2 table) [] = grouped pairs := by
  induction pairs using List.reverseRecOn with
  | nil => rfl
  | append_singleton pairs pair ih =>
    obtain ⟨k, a⟩ := pair
    rw [List.foldl_append, List.foldl_cons, List.foldl_nil, ih, grouped,
      put_map (nodup_keys pairs) k a _ members_of_not_mem, grouped, keys_concat]
    simp only [members_concat]

theorem grouped_concat (pairs : List (κ × α)) (k : κ) (a : α) :
    grouped (pairs ++ [(k, a)]) = put k a (grouped pairs) := by
  rw [← foldl_put, List.foldl_append, foldl_put]
  rfl

theorem any_grouped (p : α → Bool) (pairs : List (κ × α)) :
    (grouped pairs).any (fun group => group.2.any p) = pairs.any fun pair => p pair.2 := by
  have step (k : κ) (a : α) (table : List (κ × List α)) :
      (put k a table).any (fun group => group.2.any p) =
        (table.any (fun group => group.2.any p) || p a) := by
    induction table with
    | nil => simp [put]
    | cons first rest ih =>
      by_cases same : first.1 = k
      · have new : (insertNew a first.2).any p = (first.2.any p || p a) := by
          unfold insertNew
          split
          · rename_i known
            cases satisfied : p a with
            | false => simp
            | true => simpa using ⟨a, known, satisfied⟩
          · simp
        rw [put, if_pos same, List.any_cons, new, List.any_cons, Bool.or_right_comm]
      · rw [put_cons_of_ne same, List.any_cons, ih, List.any_cons, Bool.or_assoc]
  induction pairs using List.reverseRecOn with
  | nil => rfl
  | append_singleton pairs pair ih =>
    rw [grouped_concat pairs pair.1 pair.2, step, ih]
    simp

theorem put_of_not_mem {table : List (κ × List α)} {k : κ} (absent : k ∉ table.map Prod.fst)
    (a : α) : put k a table = table ++ [(k, [a])] := by
  induction table with
  | nil => rfl
  | cons first rest ih =>
    have other : first.1 ≠ k := fun same => absent (by simp [same])
    rw [put_cons_of_ne other, ih fun member => absent (List.mem_cons_of_mem _ member),
      List.cons_append]

theorem grouped_of_nodup {pairs : List (κ × α)} (distinct : (pairs.map Prod.fst).Nodup) :
    grouped pairs = pairs.map fun pair => (pair.1, [pair.2]) := by
  induction pairs using List.reverseRecOn with
  | nil => rfl
  | append_singleton pairs pair ih =>
    rw [List.map_append, List.nodup_append] at distinct
    obtain ⟨front, -, apart⟩ := distinct
    have absent : pair.1 ∉ (grouped pairs).map Prod.fst := by
      rw [ih front, List.map_map]
      intro member
      exact apart pair.1 member pair.1 (by simp) rfl
    rw [grouped_concat pairs pair.1 pair.2, put_of_not_mem absent, ih front, List.map_append]
    rfl

theorem mem_members {pairs : List (κ × α)} {k : κ} {a : α} :
    a ∈ members pairs k ↔ (k, a) ∈ pairs := by
  simp [members, List.mem_eraseDups]

theorem one_lt_length_members {pairs : List (κ × α)} {k : κ} :
    1 < (members pairs k).length ↔ ∃ a b, (k, a) ∈ pairs ∧ (k, b) ∈ pairs ∧ a ≠ b := by
  have distinct : (members pairs k).Nodup := nodup_eraseDups _
  simp only [← mem_members]
  constructor
  · intro several
    match found : members pairs k, several with
    | a :: b :: rest, _ =>
      rw [found] at distinct
      have other : a ≠ b := fun same => (List.nodup_cons.mp distinct).1 (by simp [same])
      exact ⟨a, b, by simp, by simp, other⟩
  · rintro ⟨a, b, memberA, memberB, other⟩
    match members pairs k, memberA, memberB with
    | [c], memberA, memberB =>
      have same : a = b :=
        (List.mem_singleton.mp memberA).trans (List.mem_singleton.mp memberB).symm
      exact absurd same other
    | _ :: _ :: _, _, _ => simp

theorem grouped_eq_nil_iff {pairs : List (κ × α)} : grouped pairs = [] ↔ pairs = [] := by
  rw [grouped, List.map_eq_nil_iff]
  constructor
  · intro none
    refine List.eq_nil_iff_forall_not_mem.mpr fun pair member => ?_
    have known : pair.1 ∈ keys pairs := mem_keys.mpr ⟨pair.2, member⟩
    simp [none] at known
  · rintro rfl
    rfl

theorem exists_several_grouped {pairs : List (κ × α)} :
    (∃ group ∈ grouped pairs, 1 < group.2.length) ↔
      ∃ k a b, (k, a) ∈ pairs ∧ (k, b) ∈ pairs ∧ a ≠ b := by
  constructor
  · rintro ⟨group, member, several⟩
    obtain ⟨k, -, rfl⟩ := List.mem_map.mp member
    exact ⟨k, one_lt_length_members.mp several⟩
  · rintro ⟨k, a, b, memberA, memberB, other⟩
    refine ⟨(k, members pairs k), List.mem_map_of_mem (mem_keys.mpr ⟨a, memberA⟩), ?_⟩
    exact one_lt_length_members.mpr ⟨a, b, memberA, memberB, other⟩

end Grouping

open Grouping

namespace Condition

theorem Proper.eq_of_source {c d : Condition} (hc : Proper c) (hd : Proper d)
    (same : c.source = d.source) : c = d := by
  have apart : Expression.Apart [] := by simp [Expression.Apart]
  have tokens : c.tokens = d.tokens := by
    have scans := hc.scans apart
    rw [same] at scans
    rw [List.append_nil] at scans
    have other := hd.scans apart
    rw [List.append_nil] at other
    exact scans.unique other
  have read := hc.read?_tokens
  rw [tokens, hd.read?_tokens] at read
  simpa using read.symm

end Condition

namespace Fragment

/-- A fragment that is read back from its text on this path. -/
def Readable (path : String) (f : Fragment) : Prop := IsWord path.toList ∧ f.Sound

end Fragment

namespace Group

/-- A view of fragments on a path that tells them apart just as their texts do. -/
def Faithful {α : Type} (within : String → Fragment → Prop) (view : String → Fragment → α) : Prop :=
  ∀ path f g, within path f → within path g →
    (f.text path = g.text path ↔ view path f = view path g)

theorem faithful_condition : Faithful Fragment.Readable Fragment.condition := by
  rintro path f g ⟨isWord, soundF⟩ ⟨-, soundG⟩
  rw [← String.toList_inj, Fragment.toList_text soundF, Fragment.toList_text soundG]
  constructor
  · exact (Fragment.proper_condition isWord soundF).eq_of_source
      (Fragment.proper_condition isWord soundG)
  · intro same
    rw [same]

/-- A group as it is built: it has fragments, all of them in this class. -/
structure Of (within : String → Fragment → Prop) (g : Group) : Prop where
  fragments : ∀ f ∈ g.fragments, within g.path f
  nonempty : g.fragments ≠ []

section

variable {α : Type} {within : String → Fragment → Prop} {view : String → Fragment → α}

/-- The fragments of a group in this view, under the key of the group. -/
def entry (view : String → Fragment → α) (g : Group) : (String × Operator) × List α :=
  ((g.path, g.operator), g.fragments.map (view g.path))

theorem of_add {g : Group} {f : Fragment} (of : g.Of within) (h : within g.path f) :
    (g.add f).Of within := by
  unfold add
  split
  · exact of
  · refine ⟨?_, by simp⟩
    intro other member
    rcases List.mem_append.mp member with member | member
    · exact of.fragments other member
    · rw [List.mem_singleton.mp member]
      exact h

theorem entry_add [DecidableEq α] (faithful : Faithful within view) {g : Group} {f : Fragment}
    (of : g.Of within) (h : within g.path f) :
    (g.add f).entry view = ((g.path, g.operator), insertNew (view g.path f) (g.entry view).2) := by
  have known : (g.fragments.any fun other => other.text g.path = f.text g.path) = true ↔
      view g.path f ∈ g.fragments.map (view g.path) := by
    simp only [List.any_eq_true, decide_eq_true_eq, List.mem_map]
    constructor
    · rintro ⟨other, member, same⟩
      exact ⟨other, member, (faithful _ _ _ (of.fragments other member) h).mp same⟩
    · rintro ⟨other, member, same⟩
      exact ⟨other, member, (faithful _ _ _ (of.fragments other member) h).mpr same⟩
  unfold add insertNew
  simp only [entry, known]
  split <;> simp [*]

end

def condition (g : Group) : Condition := .join .or (g.fragments.map (Fragment.condition g.path))

theorem proper_condition {g : Group} (of : g.Of Fragment.Readable) : g.condition.Proper := by
  obtain ⟨path, operator, fragments⟩ := g
  have each : ∀ f ∈ fragments, (f.condition path).Proper := fun f member =>
    Fragment.proper_condition (of.fragments f member).1 (of.fragments f member).2
  rcases fragments with _ | ⟨f, _ | ⟨g, rest⟩⟩
  · exact absurd rfl of.nonempty
  · exact each f (by simp)
  · refine .joined (by simp) ?_
    intro c member
    change c ∈ (f :: g :: rest).map (Fragment.condition path) at member
    obtain ⟨f, inside, rfl⟩ := List.mem_map.mp member
    exact each f inside

theorem toList_text {g : Group} (of : g.Of Fragment.Readable) :
    g.text.toList = g.condition.source := by
  obtain ⟨path, operator, fragments⟩ := g
  have each : ∀ f ∈ fragments, (f.text path).toList = (f.condition path).source := fun f member =>
    Fragment.toList_text (of.fragments f member).2 path
  rcases fragments with _ | ⟨f, _ | ⟨g, rest⟩⟩
  · exact absurd rfl of.nonempty
  · exact each f (by simp)
  · have others : (g :: rest).flatMap (fun h => " or ".toList ++ (h.text path).toList) =
        (g :: rest).flatMap fun h => " or ".toList ++ (h.condition path).source := by
      rw [List.flatMap_def, List.flatMap_def]
      refine congrArg List.flatten (List.map_congr_left fun h member => ?_)
      rw [each h (by simp [member])]
    rw [text, List.map_cons, List.map_cons, String.toList_append, String.toList_append,
      toList_intercalate_cons, each f (by simp), ← List.map_cons, List.flatMap_map, others]
    simp [condition, Condition.join, Condition.source, Condition.moreSource_eq,
      Combinator.separator, List.flatMap_map]

end Group

section

variable {α : Type} [DecidableEq α] {within : String → Fragment → Prop}
  {view : String → Fragment → α}

theorem Clause.addFragment_entry (faithful : Group.Faithful within view) {path : String}
    (operator : Operator) {f : Fragment} {groups : List Group} (h : within path f)
    (each : ∀ g ∈ groups, g.Of within) :
    (∀ g ∈ addFragment path operator f groups, g.Of within) ∧
      (addFragment path operator f groups).map (Group.entry view) =
        put (path, operator) (view path f) (groups.map (Group.entry view)) := by
  induction groups with
  | nil =>
    refine ⟨?_, rfl⟩
    intro g member
    rw [List.mem_singleton.mp member]
    exact ⟨by simpa using h, by simp⟩
  | cons g rest ih =>
    obtain ⟨first, others⟩ := List.forall_mem_cons.mp each
    by_cases same : g.path = path ∧ g.operator = operator
    · obtain ⟨rfl, rfl⟩ := same
      rw [addFragment, if_pos ⟨rfl, rfl⟩]
      refine ⟨List.forall_mem_cons.mpr ⟨Group.of_add first h, others⟩, ?_⟩
      rw [List.map_cons, Group.entry_add faithful first h]
      rw [List.map_cons, Group.entry, put, if_pos rfl]
    · obtain ⟨ofRest, entries⟩ := ih others
      rw [addFragment, if_neg same]
      refine ⟨List.forall_mem_cons.mpr ⟨first, ofRest⟩, ?_⟩
      have other : (g.entry view).1 ≠ (path, operator) := by
        simpa [Group.entry] using same
      rw [List.map_cons, entries, List.map_cons, put_cons_of_ne other]

namespace Compiler

def viewed (c : Compiler) (view : String → Fragment → α) (filters : List Filter) :
    List ((String × Operator) × α) :=
  filters.filterMap fun f => (Fragment.ofFilter? c.now f).map fun fragment =>
    ((c.path f, f.operator), view (c.path f) fragment)

/-- The groups of a clause are those of its filters, in any view that is faithful. -/
theorem foldl_addFilter (c : Compiler) (faithful : Group.Faithful within view)
    {filters : List Filter}
    (each : ∀ f ∈ filters, ∀ fragment ∈ Fragment.ofFilter? c.now f, within (c.path f) fragment) :
    (∀ g ∈ filters.foldl c.addFilter [], g.Of within) ∧
      (filters.foldl c.addFilter []).map (Group.entry view) = grouped (c.viewed view filters) := by
  rw [← foldl_put]
  induction filters using List.reverseRecOn with
  | nil => exact ⟨by simp, rfl⟩
  | append_singleton filters f ih =>
    obtain ⟨others, last⟩ := List.forall_mem_append.mp each
    obtain ⟨of, entries⟩ := ih others
    rw [List.foldl_append, List.foldl_cons, List.foldl_nil, viewed, List.filterMap_append,
      List.foldl_append, ← viewed]
    cases found : Fragment.ofFilter? c.now f with
    | none =>
      simp only [addFilter, found, List.filterMap_cons, List.filterMap_nil, Option.map_none,
        List.foldl_nil]
      exact ⟨of, entries⟩
    | some fragment =>
      have step := Clause.addFragment_entry faithful f.operator
        (last f (by simp) fragment found) of
      rw [entries] at step
      simpa only [addFilter, found, List.filterMap_cons, List.filterMap_nil, Option.map_some,
        List.foldl_cons, List.foldl_nil] using step

end Compiler

end

namespace Compiler

/-- The place of a filter in a clause: its path and its operator. -/
def place (c : Compiler) (f : Filter) : String × Operator := (c.path f, f.operator)

/-- The filters that ask something: each with its place and its text. -/
def rendered (c : Compiler) (filters : List Filter) : List ((String × Operator) × String) :=
  filters.filterMap fun f => (c.render? f).map (c.place f, ·)

theorem mem_rendered {c : Compiler} {filters : List Filter} {k : String × Operator} {a : String} :
    (k, a) ∈ c.rendered filters ↔ ∃ f ∈ filters, c.place f = k ∧ a ∈ c.render? f := by
  simp only [rendered, List.mem_filterMap, Option.map_eq_some_iff, Option.mem_def, Prod.mk.injEq]
  constructor
  · rintro ⟨f, member, text, found, key, rfl⟩
    exact ⟨f, member, key, found⟩
  · rintro ⟨f, member, key, found⟩
    exact ⟨f, member, a, found, key, rfl⟩

/-- The groups of a clause hold the texts of its filters. -/
theorem entries_clause (c : Compiler) (filters : List Filter) (j : Combinator) :
    (c.clause filters j).groups.map (Group.entry Fragment.text) = grouped (c.rendered filters) := by
  have faithful : Group.Faithful (fun _ _ => True) Fragment.text := fun _ _ _ _ _ => Iff.rfl
  have texts : c.viewed Fragment.text filters = c.rendered filters := by
    refine List.filterMap_congr fun f _ => ?_
    rw [render?, Option.map_map]
    rfl
  rw [← texts]
  exact (c.foldl_addFilter faithful fun _ _ _ _ => trivial).2

end Compiler

end ODataQuery
