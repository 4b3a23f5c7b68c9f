import Mathlib.Data.List.Nodup
import ODataQuery.Proofs.Expression.Acceptance
import ODataQuery.Proofs.Expression.Meaning

/-! What the clause of an expression leaves out. Blank values are not compared with, dates relative
to now need an amount and a bound that is an instant, and what is left of the clauses is all there.
-/
namespace ODataQuery

open Expression Grouping

def Atom.comparing (path : String) (o : Operator) (v : Literal) : Atom :=
  ⟨if o = .notContains then .contains else o, path, v.token⟩

namespace Condition

inductive Mentions (a : Atom) : Condition → Prop
  | atom : Mentions a (.atom a)
  | not : Mentions a c → Mentions a (.not c)
  | joined : c ∈ parts → Mentions a c → Mentions a (.joined j parts)

variable {a : Atom}

theorem mentions_compare {path : String} {o : Operator} {v : Literal} :
    (compare path o v).Mentions a ↔ a = .comparing path o v := by
  unfold compare Atom.comparing
  by_cases negated : o = .notContains
  · rw [if_pos negated, if_pos negated]
    constructor
    · rintro (_ | ⟨⟨⟩⟩)
      rfl
    · rintro rfl
      exact .not .atom
  · rw [if_neg negated, if_neg negated]
    constructor
    · rintro ⟨⟩
      rfl
    · rintro rfl
      exact .atom

theorem mentions_join {j : Combinator} {parts : List Condition} :
    (join j parts).Mentions a ↔ ∃ c ∈ parts, c.Mentions a := by
  unfold join
  split
  · simp
  · constructor
    · rintro ⟨⟩
      exact ⟨_, ‹_›, ‹_›⟩
    · rintro ⟨c, member, mentions⟩
      exact .joined member mentions

theorem mentions_joinAny? {j : Combinator} {parts : List Condition} :
    (∃ c ∈ joinAny? j parts, c.Mentions a) ↔ ∃ c ∈ parts, c.Mentions a := by
  cases parts with
  | nil => simp [joinAny?]
  | cons c rest =>
    rw [← mentions_join (j := j)]
    simp [joinAny?]

/-- Comparisons with the values that are not blank, however they are joined. -/
theorem mentions_usable {j : Combinator} {path : String} {o : Operator} {values : List Literal} :
    (∃ c ∈ joinAny? j ((values.filter (!·.isBlank)).map (compare path o)), c.Mentions a) ↔
      ∃ v ∈ values, v.isBlank = false ∧ a = .comparing path o v := by
  rw [mentions_joinAny?]
  simp [mentions_compare, and_assoc]

end Condition

theorem Fragment.mentions_condition {fragment : Fragment} (sound : fragment.Sound) (path : String) :
    ∃ a, (fragment.condition path).Mentions a := by
  have compared (o : Operator) (v : Literal) : ∃ a, (Condition.compare path o v).Mentions a :=
    ⟨_, Condition.mentions_compare.mpr rfl⟩
  cases fragment with
  | nullary o => exact compared _ .null
  | single o v => exact compared o v
  | bounded low high =>
    obtain ⟨a, mentions⟩ := compared .greaterOrEqual low
    exact ⟨a, .joined List.mem_cons_self mentions⟩
  | anyOf operands =>
    obtain ⟨v, rest, rfl⟩ := List.exists_cons_of_length_pos (Nat.zero_lt_of_lt sound)
    obtain ⟨a, mentions⟩ := compared .equal v
    exact ⟨a, .joined List.mem_cons_self mentions⟩
  | noneOf operands =>
    obtain ⟨v, rest, rfl⟩ := List.exists_cons_of_length_pos (Nat.zero_lt_of_lt sound)
    obtain ⟨a, mentions⟩ := compared .notEqual v
    exact ⟨a, .joined List.mem_cons_self mentions⟩

namespace Filter

def Mentions (now : Instant) (a : Atom) (f : Filter) : Prop :=
  ∃ c ∈ f.condition? now f.field, c.Mentions a

end Filter

/-- The atoms of a clause are those of the filters that it is compiled from. -/
theorem Compiler.mentions_condition? {c : Compiler} {filters : List Filter} {j : Combinator}
    {a : Atom} :
    (∃ said ∈ c.condition? filters j, said.Mentions a) ↔
      ∃ pair ∈ c.asked filters, pair.2.Mentions a := by
  classical
  have grouped := any_grouped (fun said => decide (said.Mentions a)) (c.asked filters)
  rw [Bool.eq_iff_iff] at grouped
  simp only [List.any_eq_true, decide_eq_true_eq] at grouped
  rw [← grouped, condition?, Condition.mentions_joinAny?]
  simp [Condition.mentions_join]

namespace Expression

variable {now : Instant} {a : Atom}

theorem mentions_asked {filters : List Filter} (plain : ∀ f ∈ filters, Plain f.field f) :
    (∃ pair ∈ Compiler.asked ⟨now, none⟩ filters, pair.2.Mentions a) ↔
      ∃ f ∈ filters, f.Mentions now a := by
  rw [asked_plain plain]
  simp only [List.mem_filterMap, Option.map_eq_some_iff, Filter.Mentions]
  constructor
  · rintro ⟨_, ⟨f, member, said, found, rfl⟩, mentions⟩
    exact ⟨f, member, said, found, mentions⟩
  · rintro ⟨f, member, said, found, mentions⟩
    exact ⟨_, ⟨f, member, said, found, rfl⟩, mentions⟩

/-- Listing a value once keeps the comparisons with it. -/
theorem exists_selection {path : String} {o : Operator} {values : List Literal} :
    (∃ v ∈ Payload.selection values, v.isBlank = false ∧ a = .comparing path o v) ↔
      ∃ v ∈ values, v.isBlank = false ∧ a = .comparing path o v := by
  -- selections keep what holds of all values and does not tell equal values apart
  have alike (v w : Literal) (same : v.same w = true) :
      (v.isBlank || decide (a ≠ .comparing path o v)) =
        (w.isBlank || decide (a ≠ .comparing path o w)) := by
    rw [Literal.isBlank_eq_of_same same, Atom.comparing, Atom.comparing,
      Literal.token_eq_of_same same]
  have all := Payload.all_selection alike values
  rw [Bool.eq_iff_iff, ← not_iff_not] at all
  simpa using all

theorem mentions_exclusion {f : Filter} (plain : Plain f.field f)
    (exclusion : f.operator = .notEqual) :
    f.Mentions now a ↔
      ∃ v ∈ excludedValues f, v.isBlank = false ∧ a = .comparing f.field .notEqual v := by
  rw [Filter.Mentions, condition?_exclusion plain now f.field exclusion, Condition.mentions_usable]

theorem jointly_silent (now : Instant) (a : Atom) : Jointly fun f => ¬ f.Mentions now a where
  same := by
    intro f g key same
    obtain ⟨field, operator⟩ := key_eq_iff.mp key
    rw [Filter.Mentions, Filter.Mentions, field,
      Filter.condition?_eq_of_same now g.field operator same]
  merged := by
    intro f g plainF plainG key exclusion
    obtain ⟨field, operator⟩ := key_eq_iff.mp key
    rw [mentions_exclusion (plain_mergeExclusions f g) rfl,
      mentions_exclusion plainF (operator.trans exclusion), mentions_exclusion plainG exclusion]
    change ¬ (∃ v ∈ Payload.selection (excludedValues f ++ excludedValues g), _ ∧ _) ↔ _
    rw [exists_selection, ← field, ← not_or, not_iff_not]
    simp only [List.mem_append, or_and_right, exists_or]
    rfl

namespace Phrase

def bound? (now : Instant) (mode : DateMode) (amount : Nat) (unit : String) : Option Instant :=
  if amount = 0 then none
  else (TimeUnit.ofText? unit).bind fun u => now.move? u (if mode = .next then amount else -amount)

def comparisons (now : Instant) : Phrase → List (Operator × Literal)
  | compare o v => [(o, v)]
  | between low high => [(.greaterOrEqual, low), (.lessOrEqual, high)]
  | isEmpty => [(.equal, .null)]
  | isNotEmpty => [(.notEqual, .null)]
  | among excluded values => values.map fun v => (if excluded then .notEqual else .equal, v)
  | relative mode amount unit =>
    match bound? now mode amount unit with
    | none => []
    | some bound =>
      if mode = .next then [(.greaterOrEqual, .instant now), (.lessOrEqual, .instant bound)]
      else [(.greaterOrEqual, .instant bound), (.lessOrEqual, .instant now)]

end Phrase

/-- The atoms of a clause: its comparisons, but for those with blank values. -/
def Written.atoms (now : Instant) (w : Written) : List Atom :=
  ((w.phrase.comparisons now).filter (!·.2.isBlank)).map fun c => .comparing w.field c.1 c.2

theorem mem_atoms {w : Written} : a ∈ w.atoms now ↔ ∃ c ∈ w.phrase.comparisons now,
    c.2.isBlank = false ∧ a = .comparing w.field c.1 c.2 := by
  simp only [Written.atoms, List.mem_map, List.mem_filter, Bool.not_eq_true', and_assoc]
  exact exists_congr fun c => and_congr_right fun _ => and_congr_right fun _ => eq_comm

theorem isOperator_takes {t : Token} {o : Operator} (h : IsOperator t o) :
    o.isNullary = false ∧ o ≠ .between := by
  obtain ⟨terminal, member, -⟩ := h
  have all : ∀ entry ∈ operatorTerminals, entry.2.isNullary = false ∧ entry.2 ≠ .between := by
    decide
  exact all _ member

theorem condition?_compare {field : String} {o : Operator} {v : Literal}
    (takes : o.isNullary = false ∧ o ≠ .between) (typed : (Phrase.compare o v).Typed) :
    (Written.filter ⟨field, .compare o v⟩).condition? now field =
      if v.isBlank then none else some (.compare field o v) := by
  obtain ⟨takes, notBetween⟩ := takes
  have notEmpty : o ≠ .isEmpty ∧ o ≠ .isNotEmpty := by
    constructor <;> rintro rfl <;> cases takes
  cases v with
  | null =>
    have either : o = .equal ∨ o = .notEqual := by simpa [Phrase.Typed, comparedBy] using typed
    rcases either with rfl | rfl <;> rfl
  | boolean | guid =>
    have either : o = .equal ∨ o = .notEqual := by simpa [Phrase.Typed, comparedBy] using typed
    rcases either with rfl | rfl <;> rfl
  | text s =>
    have operator (s : String) := operator_compare (o := o) (v := .text s) (by simp)
    by_cases bare : s = "" <;>
      simp [Filter.condition?, Written.filter, Written.operator, Written.payload, operator,
        Phrase.payload, notEmpty, Literal.isBlank, bare]
  | number x =>
    have operator := operator_compare (o := o) (v := .number x) (by simp)
    cases finite : x.isFinite <;>
      simp [Filter.condition?, Written.filter, Written.operator, Written.payload, operator,
        Phrase.payload, notEmpty, notBetween, Literal.isBlank, Filter.finiteLiteral?, finite]
  | instant t =>
    have operator := operator_compare (o := o) (v := .instant t) (by simp)
    simp [Filter.condition?, Written.filter, Written.operator, Written.payload, operator,
      Phrase.payload, notEmpty, notBetween, Literal.isBlank, Filter.dates?]

theorem mentions_within? {path : String} {low high : Option Literal} :
    (∃ c ∈ Filter.within? path low high, c.Mentions a) ↔
      (∃ v ∈ low, a = .comparing path .greaterOrEqual v) ∨
        ∃ v ∈ high, a = .comparing path .lessOrEqual v := by
  rw [Filter.within?, Condition.mentions_joinAny?]
  cases low <;> cases high <;> simp [Condition.mentions_compare]

theorem condition?_among {field : String} {excluded : Bool} {values : List Literal} :
    (Written.filter ⟨field, .among excluded values⟩).condition? now field =
      Condition.joinAny? (if excluded then .and else .or)
        (((Payload.selection values).filter (!·.isBlank)).map
          (.compare field (if excluded then .notEqual else .equal))) := by
  cases excluded <;> rfl

theorem condition?_between {field : String} {low high : Literal}
    (typed : (Phrase.between low high).Typed) :
    (Written.filter ⟨field, .between low high⟩).condition? now field =
      Filter.within? field (if low.isBlank then none else some low)
        (if high.isBlank then none else some high) := by
  cases low <;> cases high <;> try exact typed.elim
  case number.number x y =>
    change Filter.within? field (Filter.finiteLiteral? _) (Filter.finiteLiteral? _) = _
    cases finiteX : x.isFinite <;> cases finiteY : y.isFinite <;>
      simp [Filter.finiteLiteral?, Literal.isBlank, finiteX, finiteY]
  case instant.instant => rfl

theorem condition?_relative {field : String} {mode : DateMode} {amount : Nat} {unit : String}
    (typed : (Phrase.relative mode amount unit).Typed) (relative : mode = .last ∨ mode = .next) :
    (Written.filter ⟨field, .relative mode amount unit⟩).condition? now field =
      (Phrase.bound? now mode amount unit).bind fun bound =>
        if mode = .next then Filter.within? field (some (.instant now)) (some (.instant bound))
        else Filter.within? field (some (.instant bound)) (some (.instant now)) := by
  obtain ⟨u, known⟩ := typed_relative.mp typed
  have unfolded : (Written.filter ⟨field, .relative mode amount unit⟩).condition? now field =
      Filter.dates? now field .between { mode, unit := u, amount := some amount } := by
    rw [← relative_filter known]
    rfl
  rw [unfolded, Phrase.bound?, known]
  rcases relative with rfl | rfl <;> cases amount <;> rfl

theorem mentions_compared {field : String} {o : Operator} {v : Literal}
    (takes : o.isNullary = false ∧ o ≠ .between) (typed : (Phrase.compare o v).Typed) :
    (Written.filter ⟨field, .compare o v⟩).Mentions now a ↔
      a ∈ Written.atoms now ⟨field, .compare o v⟩ := by
  change (∃ c ∈ Filter.condition? now field _, _) ↔ _
  rw [condition?_compare takes typed, mem_atoms]
  cases blank : v.isBlank <;> simp [Phrase.comparisons, blank, Condition.mentions_compare]

theorem mentions_listed {field : String} {excluded : Bool} {values : List Literal} :
    (Written.filter ⟨field, .among excluded values⟩).Mentions now a ↔
      a ∈ Written.atoms now ⟨field, .among excluded values⟩ := by
  change (∃ c ∈ Filter.condition? now field _, _) ↔ _
  rw [condition?_among, Condition.mentions_usable, exists_selection, mem_atoms]
  simp [Phrase.comparisons]

theorem mentions_bounded {field : String} {low high : Literal}
    (typed : (Phrase.between low high).Typed) :
    (Written.filter ⟨field, .between low high⟩).Mentions now a ↔
      a ∈ Written.atoms now ⟨field, .between low high⟩ := by
  change (∃ c ∈ Filter.condition? now field _, _) ↔ _
  rw [condition?_between typed, mentions_within?, mem_atoms]
  cases blankLow : low.isBlank <;> cases blankHigh : high.isBlank <;>
    simp [Phrase.comparisons, blankLow, blankHigh]

theorem mentions_dated {field : String} {mode : DateMode} {amount : Nat} {unit : String}
    (typed : (Phrase.relative mode amount unit).Typed) (relative : mode = .last ∨ mode = .next) :
    (Written.filter ⟨field, .relative mode amount unit⟩).Mentions now a ↔
      a ∈ Written.atoms now ⟨field, .relative mode amount unit⟩ := by
  change (∃ c ∈ Filter.condition? now field _, _) ↔ _
  rw [condition?_relative typed relative, mem_atoms]
  cases known : Phrase.bound? now mode amount unit with
  | none => simp [Phrase.comparisons, known]
  | some bound =>
    rw [Option.bind_some]
    rcases relative with rfl | rfl
    · rw [if_neg (by simp), mentions_within?]
      simp [Phrase.comparisons, known, Literal.isBlank]
    · rw [if_pos rfl, mentions_within?]
      simp [Phrase.comparisons, known, Literal.isBlank]

theorem mentions_filter {ts : List Token} {w : Written} (written : IsWritten ts w)
    (typed : w.phrase.Typed) : w.filter.Mentions now a ↔ a ∈ w.atoms now := by
  obtain @⟨ts, p, field, phrase⟩ := written
  cases phrase with
  | compare isOperator => exact mentions_compared (isOperator_takes isOperator) typed
  | notContains => exact mentions_compared ⟨rfl, by simp⟩ typed
  | between => exact mentions_bounded typed
  | isEmpty =>
    change (∃ c ∈ some (Condition.compare field .equal .null), _) ↔ _
    simp [mem_atoms, Phrase.comparisons, Condition.mentions_compare, Literal.isBlank]
  | isNotEmpty =>
    change (∃ c ∈ some (Condition.compare field .notEqual .null), _) ↔ _
    simp [mem_atoms, Phrase.comparisons, Condition.mentions_compare, Literal.isBlank]
  | among => exact mentions_listed
  | notAmong => exact mentions_listed
  | last => exact mentions_dated typed (.inl rfl)
  | next => exact mentions_dated typed (.inr rfl)

theorem render?_eq_none_iff {f : Filter} (allowed : Filter.Allowed f.operator f.payload) :
    Compiler.render? ⟨now, none⟩ f = none ↔ ∀ a, ¬ f.Mentions now a := by
  have condition := Filter.condition_ofFilter? now f.field f
  rw [Compiler.render?, Option.map_eq_none_iff]
  simp only [Filter.Mentions, ← condition]
  cases found : Fragment.ofFilter? now f with
  | none => simp
  | some fragment =>
    have sound := Filter.sound_ofFilter? allowed found
    obtain ⟨a, mentions⟩ := Fragment.mentions_condition sound f.field
    simp only [Option.map_some, reduceCtorEq, false_iff, not_forall, not_not]
    exact ⟨a, _, rfl, mentions⟩

theorem idle_written {ts : List Token} {w : Written} (written : IsWritten ts w)
    (typed : w.phrase.Typed) :
    Compiler.render? ⟨now, none⟩ w.filter = none ↔ w.atoms now = [] := by
  rw [render?_eq_none_iff (Phrase.allowed typed), List.eq_nil_iff_forall_not_mem]
  exact forall_congr' fun a => not_congr (mentions_filter written typed)

theorem IsWritten.word_mem {used : List Token} {w : Written} (written : IsWritten used w) :
    Token.word w.field ∈ used := by
  cases written
  exact List.mem_cons_self

theorem MoreWritten.each {j : Combinator} {ts : List Token} {ws : List Written}
    (h : MoreWritten j ts ws) :
    ∀ w ∈ ws, Token.word w.field ∈ ts ∧ ∃ used, IsWritten used w := by
  induction h with
  | done => simp
  | @more used first rest ws t _ written _ ih =>
    intro w member
    rcases List.mem_cons.mp member with rfl | member
    · exact ⟨by simp [written.word_mem], used, written⟩
    · obtain ⟨inside, more⟩ := ih w member
      exact ⟨by simp [inside], more⟩

theorem IsExpression.each {j : Combinator} {ts : List Token} {ws : List Written}
    (h : IsExpression j ts ws) :
    ∀ w ∈ ws, Token.word w.field ∈ ts ∧ ∃ used, IsWritten used w := by
  obtain @⟨used, first, rest, ws, written, others⟩ := h
  intro w member
  rcases List.mem_cons.mp member with rfl | member
  · exact ⟨List.mem_append_left rest written.word_mem, used, written⟩
  · obtain ⟨inside, more⟩ := others.each w member
    exact ⟨List.mem_append_right used inside, more⟩

theorem render?_numbered {filters : List Filter} :
    ∀ f ∈ numbered filters, ∃ g ∈ filters, f.key = g.key ∧
      Compiler.render? ⟨now, none⟩ f = Compiler.render? ⟨now, none⟩ g := by
  intro f member
  obtain ⟨i, bound, rfl⟩ := List.mem_mapIdx.mp member
  exact ⟨_, List.getElem_mem bound, rfl, rfl⟩

/-- A filter of clauses under `and` is skipped when all clauses of its field and operator are. -/
theorem render?_gathered {filters result : List Filter} (gathered : Gathered .and filters result)
    (plain : ∀ f ∈ filters, Plain f.field f) {g : Filter} (member : g ∈ result) :
    Compiler.render? ⟨now, none⟩ g = none ↔
      ∀ f ∈ filters, f.key = g.key → Compiler.render? ⟨now, none⟩ f = none := by
  have skipped {f : Filter} (plain : Plain f.field f) :
      Compiler.render? ⟨now, none⟩ f = none ↔ ∀ a, ¬ f.Mentions now a :=
    render?_eq_none_iff plain.allowed
  have joint (a : Atom) := gathered.forall_iff ((jointly_silent now a).of_key g.key)
  rw [skipped (gathered.plain g member)]
  constructor
  · intro silent f inside key
    refine (skipped (plain f inside)).mpr fun a => ?_
    refine (joint a).mp ?_ f inside key
    intro h inside' key'
    rw [List.inj_on_of_nodup_map (gathered.distinct rfl) inside' member key']
    exact silent a
  · intro each a
    refine (joint a).mpr ?_ g member rfl
    intro f inside key
    exact (skipped (plain f inside)).mp (each f inside key) a

/-- The clause of a collection mentions what the clauses compare with that its filters are made of.
-/
theorem mentions_collect {j : Combinator} {ws : List Written} {collection : Collection}
    (typed : ∀ w ∈ ws, w.phrase.Typed) (each : ∀ w ∈ ws, ∃ used, IsWritten used w)
    (words : ∀ w ∈ ws, IsWord w.field.toList)
    (collected : collect j (ws.map Written.filter) = .ok collection) (now : Instant) :
    ∃ whole, Clause.Reads (Compiler.compile ⟨now, none⟩ collection) whole ∧
      ∀ a, (∃ said ∈ whole, said.Mentions a) ↔ ∃ w ∈ ws, a ∈ w.atoms now := by
  obtain ⟨result, rfl, gathered⟩ := exists_gathered (plain_written typed) collected
  have isWord := gathered.words (List.forall_mem_map.mpr words)
  have compiles : ∀ g ∈ numbered result, Compiler.Compiles ⟨now, none⟩ g :=
    compiles_numbered fun g member => ⟨gathered.plain g member, isWord g member⟩
  refine ⟨_, Compiler.reads_compileList _ j compiles, fun a => ?_⟩
  have silent := gathered.forall_iff (jointly_silent now a)
  rw [condition?_numbered, Compiler.mentions_condition?, mentions_asked gathered.plain,
    ← not_iff_not]
  push Not
  rw [silent, List.forall_mem_map]
  refine forall₂_congr fun w member => not_congr ?_
  obtain ⟨used, written⟩ := each w member
  exact mentions_filter written (typed w member)

/-- What the clause of an accepted text compares with is what its clauses compare with, but for
blank values and for dates without a bound. A filter is skipped when nothing is left of its clauses.
-/
theorem mentions_parse {text : String} {collection : Collection}
    (accepted : parse text = .ok collection) :
    ∃ ts ws, Scans text.toList ts [] ∧ IsExpression collection.combinator ts ws ∧ ∀ now,
      (∃ whole, Clause.Reads (Compiler.compile ⟨now, none⟩ collection) whole ∧
        ∀ a, (∃ said ∈ whole, said.Mentions a) ↔ ∃ w ∈ ws, a ∈ w.atoms now) ∧
      (collection.combinator = .and → ∀ f ∈ collection.filters,
        (Compiler.render? ⟨now, none⟩ f = none ↔
          ∀ w ∈ ws, w.field = f.field → w.operator = f.operator → w.atoms now = [])) ∧
      (collection.combinator = .or → List.Forall₂
        (fun f w => Compiler.render? ⟨now, none⟩ f = none ↔ w.atoms now = [])
        collection.filters ws) := by
  obtain ⟨ts, j, ws, scans, expression, typed, -, collected⟩ := parse_written_iff.mp accepted
  have each : ∀ w ∈ ws, ∃ used, IsWritten used w := fun w member => (expression.each w member).2
  have words : ∀ w ∈ ws, IsWord w.field.toList := fun w member =>
    scans.isWord (expression.each w member).1
  have plain := plain_written typed
  have mentions := mentions_collect typed each words collected
  obtain ⟨result, rfl, gathered⟩ := exists_gathered plain collected
  refine ⟨ts, ws, scans, expression, fun now => ⟨mentions now, ?_, ?_⟩⟩
  · rintro rfl f member
    obtain ⟨g, inside, key, same⟩ := render?_numbered f member
    rw [same, render?_gathered gathered plain inside, List.forall_mem_map]
    refine forall₂_congr fun w member => ?_
    obtain ⟨used, written⟩ := each w member
    rw [idle_written written (typed w member), ← key, key_eq_iff, and_imp]
    rfl
  · rintro rfl
    have skipped : (numbered result).map (Compiler.render? ⟨now, none⟩) =
        ws.map fun w => Compiler.render? ⟨now, none⟩ w.filter := by
      rw [map_numbered (fun _ _ => rfl), gathered.all rfl, List.map_map]
      rfl
    rw [← List.forall₂_map_left_iff (R := fun said w => said = none ↔ Written.atoms now w = []),
      skipped, List.forall₂_map_left_iff, List.forall₂_same]
    intro w member
    obtain ⟨used, written⟩ := each w member
    exact idle_written written (typed w member)

/-- The empty text is listed, and the clause is about the other value alone. -/
theorem mentions_parse_listed :
    ∃ ts ws whole, Scans "Dept in ('', 'a')".toList ts [] ∧ IsExpression .and ts ws ∧
      Clause.Reads "Dept eq 'a'" whole ∧ ∀ a, (∃ said ∈ whole, said.Mentions a) ↔
        ∃ w ∈ ws, a ∈ w.atoms ⟨0, 0, by decide⟩ := by
  have accepted : parse "Dept in ('', 'a')" = .ok ⟨[⟨.ofNat 1, "Dept", none, false, none, .equal,
      .choice [.text "", .text "a"]⟩], .and⟩ := by decide +kernel
  obtain ⟨ts, ws, scans, expression, each⟩ := mentions_parse accepted
  obtain ⟨⟨whole, reads, mentions⟩, -⟩ := each ⟨0, 0, by decide⟩
  have compiled : Compiler.compile ⟨⟨0, 0, by decide⟩, none⟩ ⟨[⟨.ofNat 1, "Dept", none, false, none,
      .equal, .choice [.text "", .text "a"]⟩], .and⟩ = "Dept eq 'a'" := by decide
  rw [compiled] at reads
  exact ⟨ts, ws, whole, scans, expression, reads, mentions⟩

/-- An accepted clause that compares with the empty text is skipped. -/
theorem compile_empty_text :
    ∃ collection, parse "Name eq ''" = .ok collection ∧
      (∃ f ∈ collection.filters, Compiler.render? ⟨⟨0, 0, by decide⟩, none⟩ f = none) ∧
      Compiler.compile ⟨⟨0, 0, by decide⟩, none⟩ collection = "" :=
  ⟨⟨[⟨.ofNat 1, "Name", none, false, none, .equal, .text none⟩], .and⟩, by decide +kernel,
    ⟨_, List.mem_cons_self, by decide⟩, by decide⟩

end Expression

end ODataQuery
