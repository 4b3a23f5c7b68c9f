import ODataQuery.Expression.Basic
import ODataQuery.Proofs.Clause.Grouping
import ODataQuery.Proofs.Expression.Clause
import ODataQuery.Proofs.Filter.Values

/-! Folding clauses joined by `and`: afterwards no two of them share a field and an operator, and
together they ask for what the clauses asked for before. Equal clauses ask for the same, and the
exclusion of a list of values is that of its values one by one. -/
namespace ODataQuery

open Grouping

theorem Condition.compare_eq_of_same {v w : Literal} (path : String) (o : Operator)
    (h : v.same w = true) : compare path o v = compare path o w := by
  unfold compare
  rw [Literal.token_eq_of_same h]

namespace Filter

/-- Whether what a filter describes holds of its field; a filter that asks nothing always does. -/
def satisfied (now : Instant) (v : Atom → Bool) (f : Filter) : Bool :=
  (f.condition? now f.field).all (Condition.holds v)

def asks (now : Instant) (f : Filter) : Bool := (f.condition? now f.field).isSome

def key (f : Filter) : String × Operator := (f.field, f.operator)

theorem finiteLiteral?_compare {x y : Option Binary64} (path : String) (o : Operator)
    (h : Payload.sameNumber x y = true) :
    (finiteLiteral? x).map (Condition.compare path o) =
      (finiteLiteral? y).map (Condition.compare path o) := by
  cases x <;> cases y <;> first | rfl | cases h | skip
  rename_i x y
  have same : (Literal.number x).same (.number y) = true := h
  have finite : x.isFinite = y.isFinite := by
    simpa [Literal.isBlank] using Literal.isBlank_eq_of_same same
  have compared := Condition.compare_eq_of_same path o same
  cases known : y.isFinite <;> simp [finiteLiteral?, finite, known, compared]

theorem usable_compare {vs ws : List Literal} (path : String) (o : Operator)
    (h : Payload.sameList vs ws = true) :
    (vs.filter (!·.isBlank)).map (Condition.compare path o) =
      (ws.filter (!·.isBlank)).map (Condition.compare path o) := by
  fun_induction Payload.sameList vs ws with
  | case1 => rfl
  | case2 v vs w ws ih =>
    obtain ⟨same, rest⟩ := (Bool.and_eq_true ..).mp h
    have blank := Literal.isBlank_eq_of_same same
    have compared := Condition.compare_eq_of_same path o same
    cases known : w.isBlank <;> simp [blank, known, compared, ih rest]
  | case3 => cases h

/-- Filters that differ in equal values ask for the same. -/
theorem condition?_eq_of_same {f g : Filter} (now : Instant) (path : String)
    (operator : f.operator = g.operator) (h : f.payload.same g.payload = true) :
    f.condition? now path = g.condition? now path := by
  unfold condition?
  rw [operator]
  cases fp : f.payload <;> cases gp : g.payload <;> rw [fp, gp] at h <;>
    simp only [Payload.same, Bool.false_eq_true, decide_eq_true_eq, Bool.and_eq_true] at h
  case text.text => rw [h]
  case numbers.numbers low high low' high' =>
    have lows (o : Operator) := finiteLiteral?_compare path o h.1
    have highs (o : Operator) := finiteLiteral?_compare path o h.2
    simp only [within?, lows, highs]
  case date.date => rw [h]
  case choice.choice =>
    have compared (o : Operator) := usable_compare path o h
    simp only [compared]

end Filter

namespace Expression

/-- What excludes one value; a blank value excludes nothing. -/
def excludes (v : Atom → Bool) (path : String) (value : Literal) : Bool :=
  value.isBlank || (Condition.compare path .notEqual value).holds v

theorem excludes_alike (v : Atom → Bool) (path : String) {a b : Literal}
    (h : a.same b = true) : excludes v path a = excludes v path b := by
  rw [excludes, excludes, Literal.isBlank_eq_of_same h, Condition.compare_eq_of_same path _ h]

/-- A filter with the operator `notEqual` excludes each of its values. -/
theorem condition?_exclusion {field : String} {f : Filter} (plain : Plain field f) (now : Instant)
    (path : String) (exclusion : f.operator = .notEqual) :
    f.condition? now path = Condition.joinAny? .and
      (((excludedValues f).filter (!·.isBlank)).map (Condition.compare path .notEqual)) := by
  obtain ⟨operator, payload, rfl, -, dates⟩ := plain
  cases exclusion
  cases payload with
  | text value =>
    cases value with
    | none => rfl
    | some s => by_cases bare : s = "" <;>
        simp [Filter.condition?, excludedValues, bare, Literal.isBlank, Condition.joinAny?,
          Condition.join]
  | numbers value secondary =>
    cases value with
    | none => rfl
    | some x => cases finite : x.isFinite <;>
        simp [Filter.condition?, excludedValues, Filter.finiteLiteral?, finite, Literal.isBlank,
          Condition.joinAny?, Condition.join]
  | date d =>
    have exact : d.mode = .exact := (dates d rfl).resolve_left (by decide)
    cases value : d.value <;>
      simp [Filter.condition?, excludedValues, Filter.dates?, exact, value, Literal.isBlank,
        Condition.joinAny?, Condition.join]
  | choice selected => rfl

theorem satisfied_exclusion {f : Filter} (plain : Plain f.field f) (now : Instant)
    (v : Atom → Bool) (exclusion : f.operator = .notEqual) :
    f.satisfied now v = (excludedValues f).all (excludes v f.field) := by
  rw [Filter.satisfied, condition?_exclusion plain now f.field exclusion, Condition.all_joinAny?,
    List.all_map, List.all_filter]
  refine List.all_congr rfl fun value => ?_
  cases blank : value.isBlank <;> simp [excludes, blank]

theorem asks_exclusion {f : Filter} (plain : Plain f.field f) (now : Instant)
    (exclusion : f.operator = .notEqual) :
    f.asks now = !(excludedValues f).all Literal.isBlank := by
  rw [Filter.asks, condition?_exclusion plain now f.field exclusion, Condition.isSome_joinAny?,
    List.isEmpty_map]
  refine congrArg (!·) (Bool.eq_iff_iff.mpr ?_)
  simp

theorem plain_mergeExclusions (f g : Filter) :
    Plain (mergeExclusions f g).field (mergeExclusions f g) := by
  refine ⟨.notEqual, _, rfl, ?_, by simp⟩
  change _ ∈ Operator.forChoice
  decide

theorem satisfied_mergeExclusions {f g : Filter} (plainF : Plain f.field f)
    (plainG : Plain g.field g) (field : g.field = f.field) (exclusionF : f.operator = .notEqual)
    (exclusionG : g.operator = .notEqual) (now : Instant) (v : Atom → Bool) :
    (mergeExclusions f g).satisfied now v = (f.satisfied now v && g.satisfied now v) := by
  rw [satisfied_exclusion (plain_mergeExclusions f g) now v rfl, satisfied_exclusion plainF now v
    exclusionF, satisfied_exclusion plainG now v exclusionG, field, ← List.all_append]
  exact Payload.all_selection (fun _ _ => excludes_alike v f.field) _

theorem asks_mergeExclusions {f g : Filter} (plainF : Plain f.field f) (plainG : Plain g.field g)
    (exclusionF : f.operator = .notEqual) (exclusionG : g.operator = .notEqual) (now : Instant) :
    (mergeExclusions f g).asks now = (f.asks now || g.asks now) := by
  have blanks := Payload.all_selection (fun _ _ => Literal.isBlank_eq_of_same)
    (excludedValues f ++ excludedValues g)
  rw [asks_exclusion (plain_mergeExclusions f g) now rfl, asks_exclusion plainF now exclusionF,
    asks_exclusion plainG now exclusionG, ← Bool.not_and, ← List.all_append, ← blanks]
  rfl

theorem key_eq_iff {f g : Filter} : f.key = g.key ↔ f.field = g.field ∧ f.operator = g.operator :=
  Prod.mk.injEq .. ▸ Iff.rfl

/-- What putting a clause to those before it does: it is new, a repetition, or one more exclusion.
-/
inductive Puts (f : Filter) (folded : List Filter) : List Filter → Prop
  | new : f.key ∉ folded.map Filter.key → Puts f folded (folded ++ [f])
  | again : g ∈ folded → g.key = f.key → g.payload.same f.payload = true → Puts f folded folded
  | merged (front : List Filter) : folded = front ++ g :: back → g.key = f.key →
      f.operator = .notEqual → Puts f folded (front ++ mergeExclusions g f :: back)

theorem puts_insertClause {f : Filter} {folded result : List Filter}
    (h : insertClause f folded = .ok result) : Puts f folded result := by
  induction folded generalizing result with
  | nil =>
    cases h
    exact .new (by simp)
  | cons g rest ih =>
    rw [insertClause] at h
    split at h
    · rename_i together
      have key : g.key = f.key := key_eq_iff.mpr together
      split at h
      · rename_i same
        cases h
        exact .again List.mem_cons_self key same
      split at h
      · rename_i exclusion
        cases h
        exact .merged [] rfl key exclusion
      · cases h
    · rename_i apart
      have other : f.key ≠ g.key := fun key => apart (key_eq_iff.mp key.symm)
      cases tail : insertClause f rest with
      | error e =>
        rw [tail] at h
        cases h
      | ok more =>
        rw [tail] at h
        cases h
        cases ih tail with
        | new absent => exact .new (by simpa [other] using absent)
        | again member key same => exact .again (List.mem_cons_of_mem g member) key same
        | merged front whole key exclusion =>
          exact .merged (g :: front) (congrArg (g :: ·) whole) key exclusion

/-- A property of filters that one filter has when those it was folded from have it. -/
structure Jointly (P : Filter → Prop) : Prop where
  same {f g : Filter} : f.key = g.key → f.payload.same g.payload = true → (P f ↔ P g)
  merged {f g : Filter} : Plain f.field f → Plain g.field g → f.key = g.key →
    g.operator = .notEqual → (P (mergeExclusions f g) ↔ P f ∧ P g)

theorem jointly_satisfied (now : Instant) (v : Atom → Bool) :
    Jointly (·.satisfied now v = true) where
  same := by
    intro f g key same
    obtain ⟨field, operator⟩ := key_eq_iff.mp key
    rw [Filter.satisfied, Filter.satisfied, field,
      Filter.condition?_eq_of_same now g.field operator same]
  merged := by
    intro f g plainF plainG key exclusion
    obtain ⟨field, operator⟩ := key_eq_iff.mp key
    rw [satisfied_mergeExclusions plainF plainG field.symm (operator.trans exclusion) exclusion,
      Bool.and_eq_true]

theorem jointly_idle (now : Instant) : Jointly (·.asks now = false) where
  same := by
    intro f g key same
    obtain ⟨field, operator⟩ := key_eq_iff.mp key
    rw [Filter.asks, Filter.asks, field, Filter.condition?_eq_of_same now g.field operator same]
  merged := by
    intro f g plainF plainG key exclusion
    obtain ⟨-, operator⟩ := key_eq_iff.mp key
    rw [asks_mergeExclusions plainF plainG (operator.trans exclusion) exclusion,
      Bool.or_eq_false_iff]

/-- What depends on field and operator alone is kept. -/
theorem jointly_key (P : String × Operator → Prop) : Jointly fun f => P f.key where
  same := by
    intro f g key _
    rw [key]
  merged := by
    intro f g _ _ key exclusion
    have merged : (mergeExclusions f g).key = g.key :=
      key_eq_iff.mpr ⟨(key_eq_iff.mp key).1, exclusion.symm⟩
    rw [merged, key, and_self]

theorem Jointly.of_key {P : Filter → Prop} (joint : Jointly P) (k : String × Operator) :
    Jointly fun f => f.key = k → P f where
  same := by
    intro f g key same
    rw [key, joint.same key same]
  merged := by
    intro f g plainF plainG key exclusion
    have merged : (mergeExclusions f g).key = g.key :=
      key_eq_iff.mpr ⟨(key_eq_iff.mp key).1, exclusion.symm⟩
    rw [merged, key, joint.merged plainF plainG key exclusion, imp_and]

namespace Puts

variable {f : Filter} {folded result : List Filter}

theorem plain (puts : Puts f folded result) (plainF : Plain f.field f)
    (plains : ∀ g ∈ folded, Plain g.field g) : ∀ g ∈ result, Plain g.field g := by
  cases puts with
  | new =>
    rw [List.forall_mem_append, List.forall_mem_singleton]
    exact ⟨plains, plainF⟩
  | again => exact plains
  | @merged g back front whole =>
    subst whole
    rw [List.forall_mem_append, List.forall_mem_cons] at plains ⊢
    exact ⟨plains.1, plain_mergeExclusions g f, plains.2.2⟩

theorem keys (puts : Puts f folded result) :
    result.map Filter.key = insertNew f.key (folded.map Filter.key) := by
  cases puts with
  | new absent => simp [insertNew, absent]
  | again member key =>
    have known : f.key ∈ folded.map Filter.key := key ▸ List.mem_map_of_mem member
    simp [insertNew, known]
  | @merged g back front whole key exclusion =>
    subst whole
    have merged : (mergeExclusions g f).key = g.key :=
      key_eq_iff.mpr ⟨rfl, exclusion.symm.trans (key_eq_iff.mp key).2.symm⟩
    simp [insertNew, merged, key]

theorem forall_iff {P : Filter → Prop} (puts : Puts f folded result) (joint : Jointly P)
    (plainF : Plain f.field f) (plains : ∀ g ∈ folded, Plain g.field g) :
    (∀ g ∈ result, P g) ↔ (∀ g ∈ folded, P g) ∧ P f := by
  cases puts with
  | new => rw [List.forall_mem_append, List.forall_mem_singleton]
  | again member key same =>
    refine ⟨fun each => ⟨each, ?_⟩, And.left⟩
    exact (joint.same key same).mp (each _ member)
  | @merged g back front whole key exclusion =>
    subst whole
    have plainG : Plain g.field g := plains g (by simp)
    simp only [List.forall_mem_append, List.forall_mem_cons,
      joint.merged plainG plainF key exclusion]
    tauto

end Puts

/-- A list after clauses were put to the one before: there is one filter for each field and
operator, and the filters have together what those before and the clauses had. -/
structure Folded (before clauses result : List Filter) : Prop where
  plain : ∀ g ∈ result, Plain g.field g
  distinct : (result.map Filter.key).Nodup
  forall_iff {P : Filter → Prop} : Jointly P →
    ((∀ g ∈ result, P g) ↔ (∀ g ∈ before, P g) ∧ ∀ f ∈ clauses, P f)

theorem folded_from {before clauses result : List Filter}
    (plainBefore : ∀ g ∈ before, Plain g.field g) (distinct : (before.map Filter.key).Nodup)
    (plains : ∀ f ∈ clauses, Plain f.field f)
    (h : clauses.foldlM (fun folded f => insertClause f folded) before = .ok result) :
    Folded before clauses result := by
  induction clauses generalizing before with
  | nil =>
    cases h
    exact ⟨plainBefore, distinct, by simp⟩
  | cons f rest ih =>
    obtain ⟨plainF, plainRest⟩ := List.forall_mem_cons.mp plains
    rw [List.foldlM_cons] at h
    obtain ⟨after, insert, h⟩ := bind_ok_iff.mp h
    have puts := puts_insertClause insert
    have distinctAfter : (after.map Filter.key).Nodup := by
      rw [puts.keys]
      exact nodup_insertNew distinct f.key
    have tail := ih (puts.plain plainF plainBefore) distinctAfter plainRest h
    refine ⟨tail.plain, tail.distinct, fun joint => ?_⟩
    rw [tail.forall_iff joint, puts.forall_iff joint plainF plainBefore, List.forall_mem_cons,
      and_assoc]

/-- Folding keeps what the clauses ask for and leaves one for each field and operator. -/
theorem folded {clauses result : List Filter} (plains : ∀ f ∈ clauses, Plain f.field f)
    (h : conjunction clauses = .ok result) : Folded [] clauses result :=
  folded_from (by simp) (by simp) plains h

/-- The filters of a collection next to those of the clauses: under `or` the same, under `and` one
for each field and operator. -/
structure Gathered (j : Combinator) (filters result : List Filter) : Prop where
  plain : ∀ g ∈ result, Plain g.field g
  all : j = .or → result = filters
  distinct : j = .and → (result.map Filter.key).Nodup
  forall_iff {P : Filter → Prop} : Jointly P → ((∀ g ∈ result, P g) ↔ ∀ f ∈ filters, P f)

theorem exists_gathered {j : Combinator} {filters : List Filter} {collection : Collection}
    (plain : ∀ f ∈ filters, Plain f.field f) (h : collect j filters = .ok collection) :
    ∃ result, collection = ⟨numbered result, j⟩ ∧ Gathered j filters result := by
  cases j with
  | or =>
    cases h
    exact ⟨filters, rfl, plain, fun _ => rfl, (fun other => by cases other), fun _ => Iff.rfl⟩
  | and =>
    obtain ⟨result, conjoined, same⟩ := bind_ok_iff.mp h
    cases same
    have fold := folded plain conjoined
    refine ⟨result, rfl, fold.plain, (fun other => by cases other), fun _ => fold.distinct, ?_⟩
    intro P joint
    rw [fold.forall_iff joint]
    simp

namespace Gathered

variable {j : Combinator} {filters result : List Filter}

theorem words (gathered : Gathered j filters result) (h : ∀ f ∈ filters, IsWord f.field.toList) :
    ∀ g ∈ result, IsWord g.field.toList :=
  (gathered.forall_iff (jointly_key fun key => IsWord key.1.toList)).mpr h

theorem satisfied (gathered : Gathered j filters result) (now : Instant) (v : Atom → Bool) :
    result.all (·.satisfied now v) = filters.all (·.satisfied now v) := by
  have joint := gathered.forall_iff (jointly_satisfied now v)
  rw [Bool.eq_iff_iff, List.all_eq_true, List.all_eq_true, joint]

theorem idle_iff (gathered : Gathered j filters result) (now : Instant) :
    result.any (·.asks now) = false ↔ filters.any (·.asks now) = false := by
  have joint := gathered.forall_iff (jointly_idle now)
  simpa using joint

end Gathered

end Expression

end ODataQuery
