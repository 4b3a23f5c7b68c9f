import ODataQuery.Proofs.Clause.Arrangement
import ODataQuery.Proofs.Expression.Acceptance
import ODataQuery.Proofs.Expression.Meaning

/-! Expressions that are joined by `and` to themselves. Every clause is repeated then: it is dropped,
or what it excludes is excluded already, and the clause that is compiled stays the same. Dropping
takes a clause for a repetition when its values are equal, and so a clause with NaN is none of
itself. -/
namespace ODataQuery

namespace Expression

open Grouping

theorem MoreWritten.append {j : Combinator} {ts us : List Token} {ws vs : List Written} {t : Token}
    (front : MoreWritten j ts ws) (isJoint : t.isKeyword j.word = true)
    (back : IsExpression j us vs) : MoreWritten j (ts ++ t :: us) (ws ++ vs) := by
  induction front with
  | done =>
    obtain ⟨first, others⟩ := back
    exact .more isJoint first others
  | more isAlso first _ ih =>
    have more := MoreWritten.more isAlso first ih
    simpa using more

theorem IsExpression.append {j : Combinator} {ts us : List Token} {ws vs : List Written} {t : Token}
    (front : IsExpression j ts ws) (isJoint : t.isKeyword j.word = true)
    (back : IsExpression j us vs) : IsExpression j (ts ++ t :: us) (ws ++ vs) := by
  obtain ⟨first, others⟩ := front
  have whole := IsExpression.clauses first (others.append isJoint back)
  simpa using whole

theorem scans_joined {text other : String} {ts us : List Token} (front : Scans text.toList ts [])
    (back : Scans other.toList us []) :
    Scans (text ++ " and " ++ other).toList (ts ++ .word "and" :: us) [] := by
  have word : Scans ("and".toList ++ ' ' :: other.toList) (.word "and" :: us) [] :=
    .word (by decide) (by decide) back.space
  have behind : Scans (' ' :: ("and".toList ++ ' ' :: other.toList)) (.word "and" :: us) [] :=
    word.space
  have apart : ∀ d ∈ (' ' :: ("and".toList ++ ' ' :: other.toList)).head?,
      Text.isBlank d = true := by
    simp
    decide
  have whole := (front.in_front apart).append behind
  simpa using whole

theorem collect_and (filters : List Filter) :
    collect .and filters = (conjunction filters).map fun result => ⟨numbered result, .and⟩ := by
  cases folded : conjunction filters <;> simp [collect, folded] <;> rfl

/-- A filter that is no repetition of itself: NaN is among its values, and it does not exclude
them. -/
def Unrepeatable (f : Filter) : Prop := f.operator ≠ .notEqual ∧ f.payload.HoldsNan

instance : DecidablePred Unrepeatable := fun _ => inferInstanceAs (Decidable (_ ∧ _))

theorem not_agree_self_iff {f : Filter} : ¬ Agree f f ↔ Unrepeatable f := by
  rw [not_agree_iff, Clash, Unrepeatable, ← Bool.not_eq_true, Payload.same_self_iff, not_not]
  simp

theorem Clash.includes {f g : Filter} (clash : Clash f g) : f.operator ≠ .notEqual := by
  rw [(key_eq_iff.mp clash.1).2]
  exact clash.2.1

/-- Of clauses that agree in pairs none clashes with another one. -/
theorem Clash.eq_of_pairwise {clauses : List Filter} {f g : Filter} (clash : Clash f g)
    (pairwise : clauses.Pairwise Agree) (memberF : f ∈ clauses) (memberG : g ∈ clauses) :
    f = g := by
  by_contra apart
  exact not_agree_iff.mpr clash (pairwise.forall memberF memberG apart)

theorem insertClause_error {f : Filter} {folded : List Filter} {e : FilterError}
    (h : insertClause f folded = .error e) :
    e = .repeatedClause f.field f.operator ∧ ∃ g ∈ folded, Clash g f := by
  induction folded with
  | nil => cases h
  | cons g rest ih =>
    rw [insertClause] at h
    split at h
    · rename_i together
      split at h
      · cases h
      rename_i differ
      split at h
      · cases h
      rename_i other
      cases h
      have clash : Clash g f := ⟨key_eq_iff.mpr together, other, by simpa using differ⟩
      exact ⟨rfl, g, List.mem_cons_self, clash⟩
    · cases tail : insertClause f rest with
      | ok more =>
        rw [tail] at h
        cases h
      | error e' =>
        rw [tail] at h
        cases h
        obtain ⟨told, g', member, clash⟩ := ih tail
        exact ⟨told, g', List.mem_cons_of_mem g member, clash⟩

theorem conjunction_error {clauses : List Filter} {e : FilterError}
    (h : conjunction clauses = .error e) :
    ∃ f ∈ clauses, ∃ g ∈ clauses, Clash g f ∧ e = .repeatedClause f.field f.operator := by
  induction clauses using List.reverseRecOn with
  | nil => cases h
  | append_singleton clauses f ih =>
    rw [conjunction_concat] at h
    cases folded : conjunction clauses with
    | error e' =>
      rw [folded] at h
      cases h
      obtain ⟨f', memberF, g, memberG, clash, told⟩ := ih folded
      exact ⟨f', by simp [memberF], g, by simp [memberG], clash, told⟩
    | ok result =>
      rw [folded] at h
      obtain ⟨told, g, member, clash⟩ := insertClause_error h
      have inside := (merged_conjunction folded).mem_clauses member clash.includes
      exact ⟨f, by simp, g, by simp [inside], clash, told⟩

section

variable {clauses result : List Filter}

/-- A clause that is no repetition of itself is left as it is. -/
theorem mem_of_unrepeatable (folded : conjunction clauses = .ok result) {f : Filter}
    (member : f ∈ clauses) (unrepeatable : Unrepeatable f) : f ∈ result := by
  have merged := merged_conjunction folded
  have pairwise := conjunction_ok_iff.mp ⟨result, folded⟩
  have disagrees : ¬ ∀ g ∈ result, Agree g f := by
    rw [merged.agree_iff pairwise]
    exact fun agree => not_agree_self_iff.mpr unrepeatable (agree f member)
  push Not at disagrees
  obtain ⟨g, inside, disagrees⟩ := disagrees
  have clash := not_agree_iff.mp disagrees
  -- clauses that were folded agree, so the filter that clashes with this clause is the clause
  obtain rfl := clash.eq_of_pairwise pairwise (merged.mem_clauses inside clash.includes) member
  exact inside

/-- Repeating clauses is refused when one of them is no repetition of itself. -/
theorem conjunction_twice_ok_iff (folded : conjunction clauses = .ok result) :
    (∃ twice, conjunction (clauses ++ clauses) = .ok twice) ↔ ¬ ∃ f ∈ result, Unrepeatable f := by
  have pairwise := conjunction_ok_iff.mp ⟨result, folded⟩
  have repeats : (clauses ++ clauses).Pairwise Agree ↔ ∀ f ∈ clauses, Agree f f := by
    rw [List.pairwise_append]
    constructor
    · rintro ⟨-, -, across⟩ f member
      exact across f member f member
    · intro selves
      exact ⟨pairwise, pairwise, pairwise.forall_of_forall selves⟩
  rw [conjunction_ok_iff, repeats]
  constructor
  · rintro selves ⟨f, member, unrepeatable⟩
    have inside := (merged_conjunction folded).mem_clauses member unrepeatable.1
    exact not_agree_self_iff.mpr unrepeatable (selves f inside)
  · intro none f member
    by_contra disagrees
    have unrepeatable := not_agree_self_iff.mp disagrees
    exact none ⟨f, mem_of_unrepeatable folded member unrepeatable, unrepeatable⟩

theorem conjunction_twice_error (folded : conjunction clauses = .ok result) {e : FilterError}
    (refused : conjunction (clauses ++ clauses) = .error e) :
    ∃ f ∈ result, Unrepeatable f ∧ e = .repeatedClause f.field f.operator := by
  have pairwise := conjunction_ok_iff.mp ⟨result, folded⟩
  obtain ⟨f, memberF, g, memberG, clash, told⟩ := conjunction_error refused
  have memberF : f ∈ clauses := by simpa using memberF
  have memberG : g ∈ clauses := by simpa using memberG
  obtain rfl := clash.eq_of_pairwise pairwise memberG memberF
  have unrepeatable := not_agree_self_iff.mp (not_agree_iff.mpr clash)
  exact ⟨g, mem_of_unrepeatable folded memberF unrepeatable, unrepeatable, told⟩

theorem keys_twice {twice : List Filter} (merged : Merged clauses result)
    (mergedTwice : Merged (clauses ++ clauses) twice) :
    result.map Filter.key = twice.map Filter.key := by
  rw [merged.keys, mergedTwice.keys, List.map_append, eraseDups_append_of_subset fun _ => id]

/-- A filter asks for the same when the clauses it is left for are repeated. -/
theorem condition?_twice {twice : List Filter} {f g : Filter}
    (selected : ∀ h ∈ clauses, h.payload.Selected) (merged : Merged clauses result)
    (mergedTwice : Merged (clauses ++ clauses) twice) (memberF : f ∈ result) (memberG : g ∈ twice)
    (plainF : Plain f.field f) (plainG : Plain g.field g) (key : f.key = g.key) (now : Instant)
    (path : String) : f.condition? now path = g.condition? now path := by
  have stands := merged.each f memberF
  have standsTwice := mergedTwice.each g memberG
  have together : sharing (clauses ++ clauses) g.key =
      sharing clauses f.key ++ sharing clauses f.key := by
    rw [key, sharing, List.filter_append]
    rfl
  have operators : f.operator = g.operator := (key_eq_iff.mp key).2
  rw [together] at standsTwice
  by_cases exclusion : f.operator = .notEqual
  · have each : ∀ h ∈ sharing clauses f.key, h.payload.Selected :=
      fun h inside => selected h (List.mem_of_mem_filter inside)
    have values := stands.excluded exclusion each
    have valuesTwice := standsTwice.excluded (operators ▸ exclusion)
      (List.forall_mem_append.mpr ⟨each, each⟩)
    rw [condition?_exclusion plainF now path exclusion,
      condition?_exclusion plainG now path (operators ▸ exclusion), values, valuesTwice,
      List.flatMap_append, Payload.filter_selection_twice]
  · have first := stands.first exclusion
    have firstTwice := standsTwice.first (operators ▸ exclusion)
    rw [List.head?_append, first, Option.some_or] at firstTwice
    rw [Option.some.inj firstTwice]

end

/-- Lists of filters agree in what any two filters of one field and operator agree in. -/
theorem map_eq_of_keys {β : Type} {view : Filter → β} {filters others : List Filter}
    (keys : filters.map Filter.key = others.map Filter.key)
    (same : ∀ f ∈ filters, ∀ g ∈ others, f.key = g.key → view f = view g) :
    filters.map view = others.map view := by
  induction filters generalizing others with
  | nil =>
    cases others with
    | nil => rfl
    | cons => cases keys
  | cons f rest ih =>
    cases others with
    | nil => cases keys
    | cons g others =>
      obtain ⟨key, keys⟩ := List.cons.inj keys
      rw [List.map_cons, List.map_cons, same f List.mem_cons_self g List.mem_cons_self key,
        ih keys fun f memberF g memberG =>
          same f (List.mem_cons_of_mem _ memberF) g (List.mem_cons_of_mem _ memberG)]

/-- Clauses and their repetitions are compiled alike. -/
theorem compileList_twice {clauses result twice : List Filter}
    (plains : ∀ f ∈ clauses, Plain f.field f) (selected : ∀ f ∈ clauses, f.payload.Selected)
    (folded : conjunction clauses = .ok result)
    (foldedTwice : conjunction (clauses ++ clauses) = .ok twice) (c : Compiler) :
    c.compileList (numbered twice) .and = c.compileList (numbered result) .and := by
  have plainsTwice : ∀ h ∈ clauses ++ clauses, Plain h.field h :=
    List.forall_mem_append.mpr ⟨plains, plains⟩
  have plainResult := (Expression.folded plains folded).plain
  have plainTwice := (Expression.folded plainsTwice foldedTwice).plain
  have merged := merged_conjunction folded
  have mergedTwice := merged_conjunction foldedTwice
  have same : result.map (fun f => (c.place f, c.render? f)) =
      twice.map fun f => (c.place f, c.render? f) := by
    refine map_eq_of_keys (keys_twice merged mergedTwice) fun f memberF g memberG key => ?_
    have plainF := plainResult f memberF
    have plainG := plainTwice g memberG
    obtain ⟨field, operator⟩ := key_eq_iff.mp key
    have path : c.path f = c.path g := by rw [plainF.path, plainG.path, field]
    have asked := condition?_twice selected merged mergedTwice memberF memberG plainF plainG key
      c.now (c.path g)
    have text := Compiler.render?_congr plainF.allowed plainG.allowed (by rw [path, asked])
    rw [Compiler.place, Compiler.place, path, operator, text]
  have blind (f : Filter) (id : Guid) : (c.place { f with id }, c.render? { f with id }) =
      (c.place f, c.render? f) := rfl
  refine Compiler.compileList_congr .and ?_
  rw [map_numbered blind, map_numbered blind, same]

/-- The clauses of an expression are folded once for itself and twice when `and` joins it to itself. -/
theorem parse_twice_eq {text : String} {collection : Collection}
    (accepted : parse text = .ok collection) (conjoined : collection.combinator = .and) :
    ∃ clauses result, (∀ f ∈ clauses, Plain f.field f) ∧ (∀ f ∈ clauses, f.payload.Selected) ∧
      conjunction clauses = .ok result ∧ collection = ⟨numbered result, .and⟩ ∧
      parse (text ++ " and " ++ text) =
        (conjunction (clauses ++ clauses)).map fun twice => ⟨numbered twice, .and⟩ := by
  obtain ⟨ts, j, ws, scans, expression, typed, -, collected⟩ := parse_written_iff.mp accepted
  obtain rfl : collection.combinator = j := collect_combinator collected
  rw [conjoined] at expression collected
  have isAnd : (Token.word "and").isKeyword Combinator.and.word = true := by decide
  have read : clauses (ts ++ .word "and" :: ts) =
      .ok (.and, ws.map Written.filter ++ ws.map Written.filter) :=
    clauses_iff.mpr ⟨ws ++ ws, expression.append isAnd expression,
      List.forall_mem_append.mpr ⟨typed, typed⟩, fun _ => rfl, List.map_append.symm⟩
  have parsed := parse_eq_collect (scans_joined scans scans) read
  rw [collect_and] at parsed collected
  cases folded : conjunction (ws.map Written.filter) with
  | error e =>
    rw [folded] at collected
    cases collected
  | ok result =>
    rw [folded] at collected
    cases collected
    exact ⟨_, result, plain_written typed,
      List.forall_mem_map.mpr fun w _ => w.phrase.selected, folded, rfl, parsed⟩

/-- An expression that `and` joins to itself is accepted when its clauses are repetitions of
themselves, as they are unless one compares with NaN and does not exclude it. Then the same clause is
compiled from it, and else it is such a clause that is refused. -/
theorem parse_twice {text : String} {collection : Collection}
    (accepted : parse text = .ok collection) (conjoined : collection.combinator = .and) :
    ((∃ twice, parse (text ++ " and " ++ text) = .ok twice) ↔
      ¬ ∃ f ∈ collection.filters, Unrepeatable f) ∧
    (∀ twice, parse (text ++ " and " ++ text) = .ok twice →
      twice.filters.map Filter.key = collection.filters.map Filter.key ∧
        ∀ c : Compiler, c.compile twice = c.compile collection) ∧
    ∀ e, parse (text ++ " and " ++ text) = .error e →
      ∃ f ∈ collection.filters, Unrepeatable f ∧ e = .repeatedClause f.field f.operator := by
  obtain ⟨clauses, result, plains, selected, folded, rfl, parsed⟩ :=
    parse_twice_eq accepted conjoined
  rw [parsed, exists_numbered_iff fun _ _ => Iff.rfl, ← conjunction_twice_ok_iff folded]
  cases foldedTwice : conjunction (clauses ++ clauses) with
  | error e =>
    refine ⟨by simp [Except.map], by rintro _ ⟨⟩, ?_⟩
    rintro _ ⟨⟩
    exact (exists_numbered_iff fun _ _ => Iff.rfl).mpr (conjunction_twice_error folded foldedTwice)
  | ok twice =>
    refine ⟨by simp [Except.map], ?_, by rintro _ ⟨⟩⟩
    rintro _ ⟨⟩
    refine ⟨?_, fun c => compileList_twice plains selected folded foldedTwice c⟩
    have keys := keys_twice (merged_conjunction folded) (merged_conjunction foldedTwice)
    rw [map_numbered fun _ _ => rfl, map_numbered fun _ _ => rfl, keys]

/-- NaN is excluded along with a number. -/
def excludingNan : Collection :=
  ⟨[⟨.ofNat 1, "Age", none, false, none, .notEqual, .choice [.number .nan, .number (.ofNat 1)]⟩,
    ⟨.ofNat 2, "Name", none, false, none, .equal, .text (some "x")⟩], .and⟩

theorem parse_twice_exclusions :
    parse "Age ne -nan and Name eq 'x' and Age ne 1" = .ok excludingNan ∧
      ∃ twice, parse ("Age ne -nan and Name eq 'x' and Age ne 1" ++ " and " ++
          "Age ne -nan and Name eq 'x' and Age ne 1") = .ok twice ∧
        ∀ c : Compiler, c.compile twice = c.compile excludingNan := by
  have accepted : parse "Age ne -nan and Name eq 'x' and Age ne 1" = .ok excludingNan := by
    decide +kernel
  obtain ⟨accepts, same, -⟩ := parse_twice accepted rfl
  obtain ⟨twice, parsed⟩ := accepts.mpr (by decide)
  exact ⟨accepted, twice, parsed, (same twice parsed).2⟩

/-- An expression of one clause that cannot be repeated. -/
theorem parse_twice_nan :
    (∃ collection, parse "Age eq -nan" = .ok collection ∧ collection.combinator = .and) ∧
      parse "Age eq -nan and Age eq -nan" = .error (.repeatedClause "Age" .equal) :=
  ⟨⟨⟨[⟨.ofNat 1, "Age", none, false, none, .equal, .numbers (some .nan) none⟩], .and⟩,
    by decide +kernel, rfl⟩, by decide +kernel⟩

end Expression

end ODataQuery
