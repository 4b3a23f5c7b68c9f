import ODataQuery.Proofs.Expression.Folding

/-! Which texts are accepted: those whose tokens are an expression of the grammar, with operators
that fit their values and with no two clauses under `and` that differ in their values alone. -/
namespace ODataQuery

namespace Expression

theorem moreClauses_sound {before joint : Option Combinator} {ts : List Token} {fs : List Filter}
    (h : moreClauses before ts = .ok (joint, fs)) :
    ∃ ws, MoreWritten (joint.getD .and) ts ws ∧ (∀ w ∈ ws, w.phrase.Typed) ∧
      fs = ws.map Written.filter ∧ (ws = [] → joint = before) := by
  induction fs generalizing before ts with
  | nil =>
    cases ts with
    | nil =>
      rw [moreClauses_nil] at h
      cases h
      exact ⟨[], .done, by simp, rfl, fun _ => rfl⟩
    | cons t ts =>
      obtain ⟨_, _, _, _, _, _, _, _, same⟩ := moreClauses_cons_eq_ok_iff.mp h
      cases same
  | cons f fs ih =>
    cases ts with
    | nil =>
      rw [moreClauses_nil] at h
      cases h
    | cons t ts =>
      obtain ⟨j, _, rest, _, isJoint, -, read, more, same⟩ := moreClauses_cons_eq_ok_iff.mp h
      cases same
      obtain rfl := moreClauses_joint more
      obtain ⟨used, w, rfl, written, typed, rfl⟩ := clause_sound read
      obtain ⟨ws, others, typedOthers, rfl, -⟩ := ih more
      exact ⟨w :: ws, .more isJoint written others, List.forall_mem_cons.mpr ⟨typed, typedOthers⟩,
        rfl, by simp⟩

theorem moreClauses_complete {j : Combinator} {ts : List Token} {ws : List Written}
    (written : MoreWritten j ts ws) (typed : ∀ w ∈ ws, w.phrase.Typed)
    {before : Option Combinator} (known : before = none ∨ before = some j) :
    moreClauses before ts = .ok (if ws = [] then before else some j, ws.map Written.filter) := by
  induction written generalizing before with
  | done => exact moreClauses_nil before
  | @more ts w rest ws t isJoint first _ ih =>
    obtain ⟨typedFirst, typedOthers⟩ := List.forall_mem_cons.mp typed
    refine moreClauses_cons_eq_ok_iff.mpr
      ⟨j, w.filter, rest, ws.map Written.filter, isJoint, known, ?_, ?_, rfl⟩
    · exact clause_complete first typedFirst rest
    · rw [ih typedOthers (.inr rfl)]
      simp

/-- A single clause is taken for one joined by `and`. -/
theorem clauses_iff {ts : List Token} {j : Combinator} {filters : List Filter} :
    clauses ts = .ok (j, filters) ↔ ∃ ws, IsExpression j ts ws ∧ (∀ w ∈ ws, w.phrase.Typed) ∧
      (ws.length = 1 → j = .and) ∧ filters = ws.map Written.filter := by
  rw [clauses_eq_ok_iff]
  constructor
  · rintro ⟨f, rest, joint, fs, read, more, rfl, rfl⟩
    obtain ⟨used, w, rfl, written, typed, rfl⟩ := clause_sound read
    obtain ⟨ws, others, typedOthers, rfl, alone⟩ := moreClauses_sound more
    have all : ∀ v ∈ w :: ws, v.phrase.Typed := List.forall_mem_cons.mpr ⟨typed, typedOthers⟩
    refine ⟨w :: ws, .clauses written others, all, ?_, rfl⟩
    intro one
    rw [alone (by simpa using one)]
    rfl
  · rintro ⟨_, @⟨_, w, rest, ws, written, others⟩, typed, alone, rfl⟩
    obtain ⟨typedFirst, typedOthers⟩ := List.forall_mem_cons.mp typed
    refine ⟨w.filter, rest, _, ws.map Written.filter, clause_complete written typedFirst rest,
      moreClauses_complete others typedOthers (.inl rfl), ?_, rfl⟩
    cases ws with
    | nil => exact alone rfl
    | cons => rfl

/-- The operators fit their values, and under `and` no clause repeats the field and the operator of
another one with different values, unless both exclude theirs. -/
structure Admitted (j : Combinator) (ws : List Written) : Prop where
  typed : ∀ w ∈ ws, w.phrase.Typed
  unrepeated : j = .and → ws.Pairwise fun v w => v.field = w.field → v.operator = w.operator →
    w.operator ≠ .notEqual → v.payload.same w.payload = true

theorem agree_filter_iff {v w : Written} :
    Agree v.filter w.filter ↔ (v.field = w.field → v.operator = w.operator →
      w.operator ≠ .notEqual → v.payload.same w.payload = true) := by
  rw [Agree, key_eq_iff, and_imp]
  rfl

/-- Clauses under `or` are all kept; those under `and` are folded. -/
theorem collect_ok_iff {j : Combinator} {ws : List Written} (typed : ∀ w ∈ ws, w.phrase.Typed) :
    (∃ collection, collect j (ws.map Written.filter) = .ok collection) ↔ Admitted j ws := by
  cases j with
  | or =>
    constructor
    · exact fun _ => ⟨typed, fun other => by cases other⟩
    · exact fun _ => ⟨_, rfl⟩
  | and =>
    have folds : (∃ collection, collect .and (ws.map Written.filter) = .ok collection) ↔
        ∃ result, conjunction (ws.map Written.filter) = .ok result := by
      simp only [collect, bind_ok_iff]
      constructor
      · rintro ⟨_, result, folded, -⟩
        exact ⟨result, folded⟩
      · rintro ⟨result, folded⟩
        exact ⟨_, result, folded, rfl⟩
    rw [folds, conjunction_ok_iff, List.pairwise_map]
    simp only [agree_filter_iff]
    exact ⟨fun agree => ⟨typed, fun _ => agree⟩, fun admitted => admitted.unrepeated rfl⟩

theorem IsExpression.alone {j : Combinator} {ts : List Token} {ws : List Written}
    (expression : IsExpression j ts ws) (one : ws.length = 1) (k : Combinator) :
    IsExpression k ts ws := by
  cases expression with
  | clauses first others =>
    cases others with
    | done => exact .clauses first .done
    | more => simp at one

theorem Admitted.alone {j : Combinator} {ws : List Written} (admitted : Admitted j ws)
    (one : ws.length = 1) (k : Combinator) : Admitted k ws := by
  obtain ⟨w, rfl⟩ := List.length_eq_one_iff.mp one
  exact ⟨admitted.typed, fun _ => List.pairwise_singleton _ w⟩

/-- An accepted text is an expression, and its collection is made of the filters that its clauses
are written for. -/
theorem parse_written_iff {text : String} {collection : Collection} :
    parse text = .ok collection ↔ ∃ ts j ws, Scans text.toList ts [] ∧ IsExpression j ts ws ∧
      (∀ w ∈ ws, w.phrase.Typed) ∧ (ws.length = 1 → j = .and) ∧
      collect j (ws.map Written.filter) = .ok collection := by
  rw [parse_eq_ok_iff]
  constructor
  · rintro ⟨ts, j, filters, scans, read, collected⟩
    obtain ⟨ws, expression, typed, alone, rfl⟩ := clauses_iff.mp read
    exact ⟨ts, j, ws, scans, expression, typed, alone, collected⟩
  · rintro ⟨ts, j, ws, scans, expression, typed, alone, collected⟩
    exact ⟨ts, j, _, scans, clauses_iff.mpr ⟨ws, expression, typed, alone, rfl⟩, collected⟩

/-- Under one of the combinators the tokens of an accepted text, all of them, are an expression. -/
theorem parse_ok_iff {text : String} {placed : List Placed}
    (tokens : tokenize (Text.trim text) = .ok placed) :
    ((∃ collection, parse text = .ok collection) ↔
      ∃ j ws, IsExpression j (placed.map Placed.token) ws ∧ Admitted j ws) ∧
    ∀ collection, parse text = .ok collection →
      ∃ ws, IsExpression collection.combinator (placed.map Placed.token) ws ∧
        Admitted collection.combinator ws ∧
        (collection.combinator = .or → collection.filters = numbered (ws.map Written.filter)) := by
  have scans : Scans text.toList (placed.map Placed.token) [] := by
    have trimmed := tokenize_iff.mp ⟨placed, tokens, rfl⟩
    rwa [Text.trim, String.toList_ofList, Scans.trim_iff] at trimmed
  have sound : ∀ collection, parse text = .ok collection →
      ∃ ws, IsExpression collection.combinator (placed.map Placed.token) ws ∧
        Admitted collection.combinator ws ∧
        (collection.combinator = .or → collection.filters = numbered (ws.map Written.filter)) := by
    intro collection accepted
    obtain ⟨ts, j, ws, scansOther, expression, typed, -, collected⟩ := parse_written_iff.mp accepted
    obtain rfl := scans.unique scansOther
    have combinator := collect_combinator collected
    subst combinator
    refine ⟨ws, expression, (collect_ok_iff typed).mp ⟨collection, collected⟩, ?_⟩
    intro isOr
    rw [isOr] at collected
    cases collected
    rfl
  refine ⟨⟨?_, ?_⟩, sound⟩
  · rintro ⟨collection, accepted⟩
    obtain ⟨ws, expression, admitted, -⟩ := sound collection accepted
    exact ⟨_, ws, expression, admitted⟩
  · rintro ⟨j, ws, expression, admitted⟩
    by_cases one : ws.length = 1
    · obtain ⟨collection, collected⟩ :=
        (collect_ok_iff admitted.typed).mpr (admitted.alone one .and)
      exact ⟨collection, parse_written_iff.mpr ⟨_, .and, ws, scans, expression.alone one .and,
        admitted.typed, fun _ => rfl, collected⟩⟩
    · obtain ⟨collection, collected⟩ := (collect_ok_iff admitted.typed).mpr admitted
      exact ⟨collection, parse_written_iff.mpr ⟨_, j, ws, scans, expression, admitted.typed,
        fun single => absurd single one, collected⟩⟩

/-- The first `AND` belongs to the bounds, the quoted one is a value, and neither joins clauses. -/
theorem parse_ok_words :
    tokenize (Text.trim " Id between 1 AND 2 or Name eq 'and'") = .ok
      [⟨0, .word "Id"⟩, ⟨3, .word "between"⟩, ⟨11, .word "1"⟩, ⟨13, .word "AND"⟩, ⟨17, .word "2"⟩,
        ⟨19, .word "or"⟩, ⟨22, .word "Name"⟩, ⟨27, .word "eq"⟩, ⟨30, .quoted "and"⟩] ∧
      ∃ ws, IsExpression .or [.word "Id", .word "between", .word "1", .word "AND", .word "2",
        .word "or", .word "Name", .word "eq", .quoted "and"] ws ∧ Admitted .or ws := by
  have tokens : tokenize (Text.trim " Id between 1 AND 2 or Name eq 'and'") = .ok
      [⟨0, .word "Id"⟩, ⟨3, .word "between"⟩, ⟨11, .word "1"⟩, ⟨13, .word "AND"⟩, ⟨17, .word "2"⟩,
        ⟨19, .word "or"⟩, ⟨22, .word "Name"⟩, ⟨27, .word "eq"⟩, ⟨30, .quoted "and"⟩] := by
    decide +kernel
  have accepted : (parse " Id between 1 AND 2 or Name eq 'and'").map Collection.combinator =
      .ok .or := by decide +kernel
  cases parsed : parse " Id between 1 AND 2 or Name eq 'and'" with
  | error e =>
    rw [parsed] at accepted
    cases accepted
  | ok collection =>
    rw [parsed] at accepted
    have isOr : collection.combinator = .or := Except.ok.inj accepted
    obtain ⟨ws, expression, admitted, -⟩ := (parse_ok_iff tokens).2 collection parsed
    rw [isOr] at expression admitted
    exact ⟨tokens, ws, expression, admitted⟩

end Expression
end ODataQuery
