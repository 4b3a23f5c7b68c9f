import Mathlib.Data.List.Nodup
import Mathlib.Data.List.Pairwise
import ODataQuery.Proofs.Expression.Conjunction
import ODataQuery.Proofs.Expression.Grammar

/-! Folding clauses, told of the whole list: which lists are refused, and what each filter of the
result was folded from. A merge makes a choice of an exclusion whatever its payload was, and so what
is followed through the folding is the values that it excludes. -/
namespace ODataQuery.Expression

open Grouping

theorem selection_excludedValues {f : Filter} (selected : f.payload.Selected) :
    Payload.selection (excludedValues f) = excludedValues f := by
  unfold excludedValues
  cases payload : f.payload with
  | text value => cases value <;> rfl
  | numbers value => cases value <;> rfl
  | date d => cases value : d.value <;> simp [value] <;> rfl
  | choice =>
    rw [payload] at selected
    obtain ⟨values, rfl⟩ := selected
    simpa using Payload.selection_selection_append values []

/-- A clause with equal values excludes nothing more. -/
theorem any_same_excludedValues {f g : Filter} (same : g.payload.same f.payload = true) :
    ∀ w ∈ excludedValues f, (excludedValues g).any (·.same w) = true := by
  unfold excludedValues
  cases payloadG : g.payload <;> cases payloadF : f.payload <;> rw [payloadG, payloadF] at same <;>
    try cases same
  case text.text value _ =>
    cases of_decide_eq_true same
    cases value <;> simp [Literal.same]
  case numbers.numbers low _ low' _ =>
    have lows : Payload.sameNumber low low' = true := ((Bool.and_eq_true ..).mp same).1
    cases low <;> cases low' <;> first | cases lows | skip
    · simp
    · simp only [Option.map_some, Option.toList_some, List.forall_mem_singleton, List.any_cons,
        List.any_nil, Bool.or_false]
      exact lows
  case date.date d _ =>
    cases of_decide_eq_true same
    cases value : d.value <;> simp [value, Literal.same]
  case choice.choice => exact Payload.any_same_of_sameList same

theorem Phrase.selected (p : Phrase) : p.payload.Selected := by
  cases p with
  | compare o v =>
    cases v with
    | text | number | instant | null => trivial
    | boolean b => exact ⟨[.boolean b], rfl⟩
    | guid g => exact ⟨[.guid g], rfl⟩
  | between low high => cases low <;> cases high <;> trivial
  | isEmpty | isNotEmpty | relative => trivial
  | among _ values => exact ⟨values, rfl⟩

/-- A clause that is read makes the selection of its values. -/
theorem selected_clause {ts rest : List Token} {f : Filter} (h : clause ts = .ok (f, rest)) :
    f.payload.Selected := by
  obtain ⟨-, w, -, -, -, rfl⟩ := clause_sound h
  exact w.phrase.selected

def sharing (clauses : List Filter) (key : String × Operator) : List Filter :=
  clauses.filter fun f => f.key = key

theorem sharing_concat (clauses : List Filter) (f : Filter) (key : String × Operator) :
    sharing (clauses ++ [f]) key =
      if f.key = key then sharing clauses key ++ [f] else sharing clauses key := by
  unfold sharing
  split <;> simp [*]

theorem sharing_eq_nil {clauses : List Filter} {key : String × Operator}
    (absent : key ∉ clauses.map Filter.key) : sharing clauses key = [] := by
  rw [sharing, List.filter_eq_nil_iff]
  intro f member same
  exact absent (of_decide_eq_true same ▸ List.mem_map_of_mem member)

/-- A filter in the place of clauses that share its field and operator: the first of them, or one
that excludes the values that any of them does, each of these once. -/
structure StandsFor (g : Filter) (together : List Filter) : Prop where
  first : g.operator ≠ .notEqual → together.head? = some g
  excluded : g.operator = .notEqual → (∀ f ∈ together, f.payload.Selected) →
    excludedValues g = Payload.selection (together.flatMap excludedValues)

namespace StandsFor

variable {f g : Filter} {together : List Filter}

theorem alone (f : Filter) : StandsFor f [f] where
  first _ := rfl
  excluded _ selected := by
    rw [List.flatMap_singleton, selection_excludedValues (selected f (by simp))]

/-- One more clause with equal values changes nothing. -/
theorem again (stands : StandsFor g together) (same : g.payload.same f.payload = true) :
    StandsFor g (together ++ [f]) where
  first other := by rw [List.head?_append, stands.first other, Option.some_or]
  excluded exclusion selected := by
    have values := stands.excluded exclusion (List.forall_mem_append.mp selected).1
    have known := any_same_excludedValues same
    rw [values] at known
    rw [List.flatMap_append, List.flatMap_singleton, values,
      Payload.selection_append_of_known known]

/-- An exclusion takes the values of one more clause. -/
theorem merged (stands : StandsFor g together) (exclusion : g.operator = .notEqual) :
    StandsFor (mergeExclusions g f) (together ++ [f]) where
  first other := absurd rfl other
  excluded _ selected := by
    have values := stands.excluded exclusion (List.forall_mem_append.mp selected).1
    rw [List.flatMap_append, List.flatMap_singleton, ← Payload.selection_selection_append,
      ← values]
    rfl

end StandsFor

/-- What is left of clauses: a filter for each field and operator, in the order in which these
occur first, that stands for the clauses which share them. -/
structure Merged (clauses result : List Filter) : Prop where
  keys : result.map Filter.key = (clauses.map Filter.key).eraseDups
  each : ∀ g ∈ result, StandsFor g (sharing clauses g.key)

namespace Merged

variable {clauses result : List Filter}

theorem distinct (merged : Merged clauses result) : (result.map Filter.key).Nodup := by
  rw [merged.keys]
  exact nodup_eraseDups _

theorem mem_keys_iff (merged : Merged clauses result) {key : String × Operator} :
    key ∈ result.map Filter.key ↔ key ∈ clauses.map Filter.key := by
  rw [merged.keys, List.mem_eraseDups]

/-- A filter that does not exclude values is one of the clauses that it was left for. -/
theorem mem_clauses (merged : Merged clauses result) {g : Filter} (member : g ∈ result)
    (other : g.operator ≠ .notEqual) : g ∈ clauses :=
  List.mem_of_mem_filter (List.mem_of_head? ((merged.each g member).first other))

/-- One more clause is new, or goes to the only filter of its field and operator. -/
theorem concat (merged : Merged clauses result) {f : Filter} {after : List Filter}
    (puts : Puts f result after) : Merged (clauses ++ [f]) after := by
  have others {g : Filter} (member : g ∈ result) (apart : f.key ≠ g.key) :
      StandsFor g (sharing (clauses ++ [f]) g.key) := by
    rw [sharing_concat, if_neg apart]
    exact merged.each g member
  refine ⟨?_, ?_⟩
  · rw [puts.keys, merged.keys, List.map_append, List.map_singleton, eraseDups_concat]
  cases puts with
  | new absent =>
    rw [List.forall_mem_append, List.forall_mem_singleton]
    refine ⟨fun g member => others member ?_, ?_⟩
    · intro same
      exact absent (same ▸ List.mem_map_of_mem member)
    · have none := sharing_eq_nil fun known => absent (merged.mem_keys_iff.mpr known)
      rw [sharing_concat, if_pos rfl, none]
      exact .alone f
  | @again g member key same =>
    intro h inside
    by_cases together : f.key = h.key
    · obtain rfl : g = h :=
        List.inj_on_of_nodup_map merged.distinct member inside (key.trans together)
      rw [sharing_concat, if_pos together]
      exact (merged.each g member).again same
    · exact others inside together
  | @merged g back front whole key exclusion =>
    subst whole
    have distinct := merged.distinct
    rw [List.map_append, List.map_cons, List.nodup_middle, List.nodup_cons,
      ← List.map_append] at distinct
    have apart {h : Filter} (member : h ∈ front ++ back) : f.key ≠ h.key := by
      intro same
      exact distinct.1 (key.trans same ▸ List.mem_map_of_mem member)
    have stands : StandsFor (mergeExclusions g f)
        (sharing (clauses ++ [f]) (mergeExclusions g f).key) := by
      have same : f.key = (mergeExclusions g f).key :=
        key_eq_iff.mpr ⟨(key_eq_iff.mp key).1.symm, exclusion⟩
      rw [sharing_concat, if_pos same, ← same, ← key]
      exact (merged.each g (by simp)).merged ((key_eq_iff.mp key).2.trans exclusion)
    rw [List.forall_mem_append, List.forall_mem_cons]
    refine ⟨fun h member => ?_, stands, fun h member => ?_⟩
    · exact others (by simp [member]) (apart (by simp [member]))
    · exact others (by simp [member]) (apart (by simp [member]))

end Merged

theorem conjunction_concat (clauses : List Filter) (f : Filter) :
    conjunction (clauses ++ [f]) = conjunction clauses >>= insertClause f := by
  rw [conjunction, List.foldlM_append]
  simp [conjunction]

/-- Folding leaves a filter for each field and operator that stands for its clauses. -/
theorem merged_conjunction {clauses result : List Filter} (h : conjunction clauses = .ok result) :
    Merged clauses result := by
  induction clauses using List.reverseRecOn generalizing result with
  | nil =>
    cases h
    exact ⟨rfl, by simp⟩
  | append_singleton clauses f ih =>
    rw [conjunction_concat] at h
    obtain ⟨before, folded, insert⟩ := bind_ok_iff.mp h
    exact (ih folded).concat (puts_insertClause insert)

/-- Two filters on one field with one operator have equal values, or exclude some. -/
def Agree (f g : Filter) : Prop :=
  f.key = g.key → g.operator ≠ .notEqual → f.payload.same g.payload = true

theorem Agree.symm {f g : Filter} (agree : Agree f g) : Agree g f := by
  intro key other
  refine Payload.same_symm (agree key.symm ?_)
  rwa [(key_eq_iff.mp key).2]

instance : Std.Symm Agree := ⟨fun _ _ => Agree.symm⟩

/-- Only a clause that disagrees with one before it is refused. -/
theorem insertClause_ok_iff {f : Filter} {folded : List Filter}
    (distinct : (folded.map Filter.key).Nodup) :
    (∃ result, insertClause f folded = .ok result) ↔ ∀ g ∈ folded, Agree g f := by
  induction folded with
  | nil => simp [insertClause]
  | cons g rest ih =>
    obtain ⟨fresh, distinct⟩ := List.nodup_cons.mp distinct
    rw [List.forall_mem_cons, insertClause]
    by_cases together : g.field = f.field ∧ g.operator = f.operator
    · have key : g.key = f.key := key_eq_iff.mpr together
      have others : ∀ h ∈ rest, Agree h f := by
        intro h member same
        exact absurd (List.mem_map.mpr ⟨h, member, same.trans key.symm⟩) fresh
      rw [if_pos together]
      by_cases same : g.payload.same f.payload = true
      · rw [if_pos same]
        exact ⟨fun _ => ⟨fun _ _ => same, others⟩, fun _ => ⟨_, rfl⟩⟩
      rw [if_neg same]
      by_cases exclusion : f.operator = .notEqual
      · rw [if_pos exclusion]
        exact ⟨fun _ => ⟨fun _ other => absurd exclusion other, others⟩, fun _ => ⟨_, rfl⟩⟩
      · rw [if_neg exclusion]
        constructor
        · rintro ⟨_, failed⟩
          cases failed
        · rintro ⟨agrees, -⟩
          exact absurd (agrees key exclusion) same
    · have agrees : Agree g f := fun key => absurd (key_eq_iff.mp key) together
      rw [if_neg together, ← ih distinct]
      cases insertClause f rest <;> simp [Except.map, agrees]

/-- Of clauses that agree with each other, those that were folded agree with a clause just when all
of them do: the filter left for them is one of them, unless it excludes values. -/
theorem Merged.agree_iff {clauses result : List Filter} (merged : Merged clauses result)
    (pairwise : clauses.Pairwise Agree) (f : Filter) :
    (∀ g ∈ result, Agree g f) ↔ ∀ g ∈ clauses, Agree g f := by
  constructor
  · intro agree h member key other
    have known : h.key ∈ result.map Filter.key :=
      merged.mem_keys_iff.mpr (List.mem_map_of_mem member)
    obtain ⟨g, inside, same⟩ := List.mem_map.mp known
    have values := agree g inside (same.trans key) other
    by_cases equal : g = h
    · rwa [← equal]
    have operators : h.operator = f.operator := (key_eq_iff.mp key).2
    have otherG : g.operator ≠ .notEqual := by rwa [(key_eq_iff.mp same).2, operators]
    have between : Agree h g :=
      pairwise.forall member (merged.mem_clauses inside otherG) (Ne.symm equal)
    exact Payload.same_trans (between same.symm otherG) values
  · intro agree g member key other
    refine agree g (merged.mem_clauses member ?_) key other
    rwa [(key_eq_iff.mp key).2]

/-- Clauses can be folded unless two of them disagree. -/
theorem conjunction_ok_iff {clauses : List Filter} :
    (∃ result, conjunction clauses = .ok result) ↔ clauses.Pairwise Agree := by
  induction clauses using List.reverseRecOn with
  | nil => exact ⟨fun _ => .nil, fun _ => ⟨[], rfl⟩⟩
  | append_singleton clauses f ih =>
    have last : (clauses ++ [f]).Pairwise Agree ↔
        clauses.Pairwise Agree ∧ ∀ g ∈ clauses, Agree g f := by
      simp [List.pairwise_append]
    simp only [conjunction_concat, bind_ok_iff, last]
    constructor
    · rintro ⟨result, before, folded, insert⟩
      have merged := merged_conjunction folded
      have pairwise := ih.mp ⟨before, folded⟩
      exact ⟨pairwise, (merged.agree_iff pairwise f).mp
        ((insertClause_ok_iff merged.distinct).mp ⟨result, insert⟩)⟩
    · rintro ⟨pairwise, agree⟩
      obtain ⟨before, folded⟩ := ih.mpr pairwise
      have merged := merged_conjunction folded
      obtain ⟨result, insert⟩ := (insertClause_ok_iff merged.distinct).mpr
        ((merged.agree_iff pairwise f).mpr agree)
      exact ⟨result, before, folded, insert⟩

theorem conjunction_refused_iff {clauses : List Filter} :
    (∃ e, conjunction clauses = .error e) ↔ ¬ clauses.Pairwise Agree := by
  rw [← conjunction_ok_iff]
  cases conjunction clauses <;> simp

/-- Two filters ask for different values of one field by one operator, which excludes none. -/
def Clash (f g : Filter) : Prop :=
  f.key = g.key ∧ g.operator ≠ .notEqual ∧ f.payload.same g.payload = false

theorem not_agree_iff {f g : Filter} : ¬ Agree f g ↔ Clash f g := by
  simp [Agree, Clash]

theorem Clash.symm {f g : Filter} (clash : Clash f g) : Clash g f :=
  not_agree_iff.mp fun agree => not_agree_iff.mpr clash agree.symm

/-- Clauses disagree in pairs when two of them clash, wherever these stand. -/
theorem not_pairwise_agree_iff {clauses : List Filter} :
    ¬ clauses.Pairwise Agree ↔
      ∃ i j : Fin clauses.length, i ≠ j ∧ Clash (clauses.get i) (clauses.get j) := by
  rw [List.pairwise_iff_get]
  constructor
  · intro apart
    push Not at apart
    obtain ⟨i, j, before, disagree⟩ := apart
    exact ⟨i, j, Fin.ne_of_lt before, not_agree_iff.mp disagree⟩
  · rintro ⟨i, j, other, clash⟩ agree
    rcases Nat.lt_or_gt_of_ne (Fin.val_ne_of_ne other) with before | after
    · exact not_agree_iff.mpr clash (agree i j before)
    · exact not_agree_iff.mpr clash.symm (agree j i after)

/-- Folding is refused when two clauses clash and else leaves one filter for the clauses that share
field and operator. The order of the clauses does not matter for whether it is refused; and clauses
that are read have selections of values, as exclusions take for granted. -/
theorem conjunction_merges (clauses : List Filter) :
    ((∃ e, conjunction clauses = .error e) ↔
      ∃ i j : Fin clauses.length, i ≠ j ∧ Clash (clauses.get i) (clauses.get j)) ∧
    (∀ result, conjunction clauses = .ok result →
      (result.map Filter.key).Nodup ∧ Merged clauses result) ∧
    (∀ others, clauses.Perm others →
      ((∃ e, conjunction clauses = .error e) ↔ ∃ e, conjunction others = .error e)) ∧
    ∀ ts f rest, clause ts = .ok (f, rest) → f.payload.Selected := by
  refine ⟨?_, fun result folded => ?_, fun others perm => ?_, fun _ _ _ => selected_clause⟩
  · rw [conjunction_refused_iff, not_pairwise_agree_iff]
  · exact ⟨(merged_conjunction folded).distinct, merged_conjunction folded⟩
  · rw [conjunction_refused_iff, conjunction_refused_iff, perm.pairwise_iff Agree.symm]

/-- Exclusions of texts and of numbers, between which another clause stands. -/
def mixedExclusions : List Filter :=
  [⟨.nil, "Code", none, false, none, .notEqual, .text (some "a")⟩,
    ⟨.nil, "Code", none, false, none, .notEqual, .numbers (some (.zero false)) none⟩,
    ⟨.nil, "Size", none, false, none, .greater, .numbers (some (.zero false)) none⟩,
    ⟨.nil, "Code", none, false, none, .notEqual, .choice [.text "a", .text "b"]⟩]

theorem conjunction_merges_mixed :
    ∃ result, conjunction mixedExclusions = .ok result ∧
      result.map Filter.key = [("Code", .notEqual), ("Size", .greater)] ∧
      ∀ g ∈ result, g.operator = .notEqual →
        excludedValues g = [.text "a", .number (.zero false), .text "b"] := by
  obtain ⟨refused, merges, -, -⟩ := conjunction_merges mixedExclusions
  have folds : ¬ ∃ e, conjunction mixedExclusions = .error e := by
    rw [refused]
    unfold Clash
    decide
  cases folded : conjunction mixedExclusions with
  | error e => exact absurd ⟨e, folded⟩ folds
  | ok result =>
    obtain ⟨-, merged⟩ := merges result folded
    have keys : result.map Filter.key = [("Code", .notEqual), ("Size", .greater)] :=
      merged.keys.trans (by decide)
    refine ⟨result, rfl, keys, fun g member exclusion => ?_⟩
    have known : g.key ∈ [("Code", Operator.notEqual), ("Size", .greater)] :=
      keys ▸ List.mem_map_of_mem member
    have key : g.key = ("Code", .notEqual) := by
      rcases List.mem_pair.mp known with key | key
      · exact key
      · cases exclusion.symm.trans (congrArg Prod.snd key)
    have stands := merged.each g member
    rw [key] at stands
    have together : sharing mixedExclusions ("Code", .notEqual) =
        [mixedExclusions[0], mixedExclusions[1], mixedExclusions[3]] := by decide
    rw [together] at stands
    refine (stands.excluded exclusion ?_).trans (by decide)
    simp only [List.forall_mem_cons]
    exact ⟨trivial, trivial, ⟨[.text "a", .text "b"], by decide⟩, by simp⟩

end ODataQuery.Expression
