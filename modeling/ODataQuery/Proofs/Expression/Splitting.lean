import ODataQuery.Proofs.Clause.Condition
import ODataQuery.Proofs.Expression.Clause

/-! Splitting an expression into its clauses. Each clause is a piece of the text, and the
combinators stand between the pieces; a piece that is read on its own gives the same filter. -/
namespace ODataQuery.Expression

theorem Scans.cons_blank_iff {c : Char} {cs : List Char} {ts : List Token}
    (blank : Text.isBlank c = true) : Scans (c :: cs) ts [] ↔ Scans cs ts [] := by
  constructor
  · intro h
    generalize whole : c :: cs = text at h
    cases h with
    | done => cases whole
    | blank _ tail => cases whole; exact tail
    | @token t source left ts rest spelled tail =>
      obtain ⟨d, ds, rfl⟩ := List.exists_cons_of_ne_nil spelled.ne_nil
      cases whole
      rw [spelled.first c rfl] at blank
      cases blank
  · exact .blank blank

/-- The tokens of a text are scanned in front of another text as well, when a blank comes first
there. -/
theorem Scans.in_front {cs behind : List Char} {ts : List Token} (h : Scans cs ts [])
    (apart : ∀ d ∈ behind.head?, Text.isBlank d = true) : Scans (cs ++ behind) ts behind := by
  generalize empty : ([] : List Char) = rest at h
  induction h with
  | done =>
    subst empty
    exact .done
  | blank isBlank _ ih => exact .blank isBlank (ih empty)
  | @token t source left ts rest spelled _ ih =>
    rw [List.append_assoc]
    refine .token (spelled.before fun d head => ?_) (ih empty)
    cases left with
    | nil => exact .inr (apart d head)
    | cons c left => exact .inl head

theorem scans_blanks {bs : List Char} (blanks : ∀ b ∈ bs, Text.isBlank b = true) :
    Scans bs [] [] := by
  induction bs with
  | nil => exact .done
  | cons b bs ih =>
    obtain ⟨blank, others⟩ := List.forall_mem_cons.mp blanks
    exact .blank blank (ih others)

theorem Scans.append_blanks {cs bs : List Char} {ts : List Token} (h : Scans cs ts [])
    (blanks : ∀ b ∈ bs, Text.isBlank b = true) : Scans (cs ++ bs) ts [] := by
  have front := h.in_front fun d head => blanks d (List.mem_of_mem_head? head)
  simpa using front.append (scans_blanks blanks)

/-- Blanks behind a text are behind its first token, which would else end in one. -/
theorem Spelled.in_front_of_blanks {t : Token} {cs bs source left : List Char}
    (h : Spelled t source left) (whole : cs ++ bs = source ++ left)
    (blanks : ∀ b ∈ bs, Text.isBlank b = true) :
    ∃ more, cs = source ++ more ∧ left = more ++ bs ∧ Spelled t source more := by
  have inside : ∃ more, cs = source ++ more ∧ left = more ++ bs := by
    rcases List.append_eq_append_iff.mp whole with ⟨more, long, blank⟩ | inside
    · rcases List.eq_nil_or_concat more with rfl | ⟨most, d, rfl⟩
      · exact ⟨[], by simpa using long.symm, by simpa using blank.symm⟩
      · have notBlank := h.last d (by simp [long])
        rw [blanks d (by simp [blank])] at notBlank
        cases notBlank
    · exact inside
  obtain ⟨more, rfl, rfl⟩ := inside
  refine ⟨more, rfl, rfl, h.before fun d head => ?_⟩
  cases more with
  | nil => cases head
  | cons c more => exact .inl head

theorem Scans.of_append_blanks {cs bs : List Char} {ts : List Token} (h : Scans (cs ++ bs) ts [])
    (blanks : ∀ b ∈ bs, Text.isBlank b = true) : Scans cs ts [] := by
  generalize whole : cs ++ bs = text at h
  generalize empty : ([] : List Char) = rest at h
  induction h generalizing cs bs with
  | done =>
    subst empty
    rw [(List.append_eq_nil_iff.mp whole).1]
    exact .done
  | @blank c ds ts rest isBlank tail ih =>
    cases cs with
    | nil =>
      rw [List.nil_append] at whole
      subst whole
      exact ih (List.forall_mem_cons.mp blanks).2 rfl empty
    | cons d cs =>
      cases whole
      exact .blank isBlank (ih blanks rfl empty)
  | token spelled tail ih =>
    obtain ⟨more, rfl, rfl, alone⟩ := spelled.in_front_of_blanks whole blanks
    exact .token alone (ih blanks rfl empty)

theorem Scans.blanks_append_iff {bs cs : List Char} {ts : List Token}
    (blanks : ∀ b ∈ bs, Text.isBlank b = true) : Scans (bs ++ cs) ts [] ↔ Scans cs ts [] := by
  induction bs with
  | nil => rfl
  | cons b bs ih =>
    obtain ⟨blank, others⟩ := List.forall_mem_cons.mp blanks
    exact (Scans.cons_blank_iff blank).trans (ih others)

theorem Scans.trim_iff {cs : List Char} {ts : List Token} :
    Scans (Text.trimChars cs) ts [] ↔ Scans cs ts [] := by
  obtain ⟨front, back, whole, blankFront, blankBack⟩ := Text.trimChars_append cs
  have leading : Scans cs ts [] ↔ Scans (Text.trimChars cs ++ back) ts [] := by
    conv_lhs => rw [whole]
    exact Scans.blanks_append_iff blankFront
  rw [leading]
  exact ⟨fun h => h.append_blanks blankBack, fun h => h.of_append_blanks blankBack⟩

/-- What was read from the front of a text is a text of its own. -/
theorem Scans.alone {cs rest : List Char} {ts : List Token} (h : Scans cs ts rest) :
    ∃ piece, cs = piece ++ rest ∧ Scans piece ts [] := by
  induction h with
  | done => exact ⟨[], rfl, .done⟩
  | @blank c _ _ _ isBlank _ ih =>
    obtain ⟨piece, rfl, scans⟩ := ih
    exact ⟨c :: piece, rfl, .blank isBlank scans⟩
  | @token t source left ts rest spelled _ ih =>
    obtain ⟨piece, rfl, scans⟩ := ih
    refine ⟨source ++ piece, by simp, .token (spelled.before fun d head => ?_) scans⟩
    cases piece with
    | nil => cases head
    | cons c piece => exact .inl head

theorem Scans.isWord {cs rest : List Char} {ts : List Token} (h : Scans cs ts rest) {w : String}
    (member : .word w ∈ ts) : IsWord w.toList := by
  induction h with
  | done => cases member
  | blank _ _ ih => exact ih member
  | token spelled _ ih =>
    rcases List.mem_cons.mp member with rfl | member
    · cases spelled with
      | word isWord => rwa [String.toList_ofList]
    · exact ih member

/-- The text of one clause, with the filter it gives. -/
def IsClause (text : String) (f : Filter) : Prop :=
  ∃ ts, Scans text.toList ts [] ∧ clause ts = .ok (f, [])

/-- A text of clauses, between which the combinator stands as a word of its own. -/
inductive Clauses (j : Combinator) : List Char → List String → Prop
  | last : Scans piece ts [] → clause ts = .ok (f, []) → Clauses j piece [String.ofList piece]
  | more : Scans (piece ++ behind) ts behind → clause ts = .ok (f, []) →
      Scans behind [t] rest → t.isKeyword j.word = true → Clauses j rest pieces →
      Clauses j (piece ++ behind) (String.ofList piece :: pieces)

theorem not_isKeyword_or {t : Token} (h : t.isKeyword "and" = true) : t.isKeyword "or" = false := by
  cases t with
  | word w =>
    have lower : w.toList.map Char.toLower = "and".toList.map Char.toLower := by
      simpa [Token.isKeyword, Text.equalsIgnoringCase] using h
    simp only [Token.isKeyword, Text.equalsIgnoringCase, lower]
    decide
  | quoted | symbol | openParen | closeParen | comma => rfl

theorem combinatorOfToken_eq_ok_iff {t : Token} {j : Combinator} :
    combinatorOfToken t = .ok j ↔ t.isKeyword j.word = true := by
  unfold combinatorOfToken
  by_cases isAnd : t.isKeyword "and" = true
  · have notOr := not_isKeyword_or isAnd
    cases j <;> simp [isAnd, notOr, Combinator.word]
  · by_cases isOr : t.isKeyword "or" = true <;> cases j <;> simp [isAnd, isOr, Combinator.word]

theorem moreClauses_cons_eq_ok_iff {before joint : Option Combinator} {t : Token} {ts : List Token}
    {filters : List Filter} : moreClauses before (t :: ts) = .ok (joint, filters) ↔
      ∃ j f rest fs, t.isKeyword j.word = true ∧ (before = none ∨ before = some j) ∧
        clause ts = .ok (f, rest) ∧ moreClauses (some j) rest = .ok (joint, fs) ∧
          filters = f :: fs := by
  rw [moreClauses]
  constructor
  · intro h
    split at h
    · cases h
    · rename_i j isJoint
      split at h
      · cases h
      rename_i agree
      split at h
      · cases h
      rename_i f rest read
      obtain ⟨⟨joint', fs⟩, more, same⟩ := bind_ok_iff.mp h
      cases same
      refine ⟨j, f, rest, fs, combinatorOfToken_eq_ok_iff.mp isJoint, ?_, read, more, rfl⟩
      cases before with
      | none => exact .inl rfl
      | some other => simpa using agree
  · rintro ⟨j, f, rest, fs, isJoint, known, read, more, rfl⟩
    have agree : ¬ (before.any fun b => decide (b ≠ j)) = true := by
      rcases known with rfl | rfl <;> simp
    rw [combinatorOfToken_eq_ok_iff.mpr isJoint]
    dsimp only
    rw [if_neg agree]
    split
    · rename_i failed
      rw [read] at failed
      cases failed
    · rename_i found
      rw [read] at found
      cases found
      rw [more]
      rfl

theorem moreClauses_nil (joint : Option Combinator) : moreClauses joint [] = .ok (joint, []) := by
  rw [moreClauses]

/-- The pieces of a text and the filters that its tokens give stand for each other. -/
theorem Clauses.filters {j : Combinator} {cs : List Char} {pieces : List String}
    (h : Clauses j cs pieces) :
    ∃ ts f fs rest, Scans cs ts [] ∧ clause ts = .ok (f, rest) ∧
      (∀ before, before = none ∨ before = some j →
        moreClauses before rest = .ok (if fs.isEmpty then before else some j, fs)) ∧
      List.Forall₂ IsClause pieces (f :: fs) := by
  induction h with
  | @last piece ts f scans read =>
    refine ⟨ts, f, [], [], scans, read, ?_, .cons ⟨ts, by simpa using scans, read⟩ .nil⟩
    intro before _
    exact moreClauses_nil before
  | @more piece behind ts f t rest pieces scans read word isJoint _ ih =>
    obtain ⟨us, g, gs, left, scansRest, readRest, more, each⟩ := ih
    obtain ⟨alone, same, scansAlone⟩ := scans.alone
    obtain rfl : piece = alone := List.append_cancel_right same
    obtain ⟨used, rfl, again⟩ := Local.clause _ _ _ read
    refine ⟨used ++ t :: us, f, g :: gs, t :: us, ?_, again _, ?_,
      .cons ⟨used ++ [], by simpa using scansAlone, read⟩ each⟩
    · have whole := scans.append (word.append scansRest)
      simpa using whole
    · intro before known
      refine moreClauses_cons_eq_ok_iff.mpr ⟨j, g, left, gs, isJoint, known, readRest, ?_, rfl⟩
      rw [more (some j) (.inr rfl)]
      split <;> rfl

theorem moreClauses_joint {j : Combinator} {joint : Option Combinator} {ts : List Token}
    {fs : List Filter} (h : moreClauses (some j) ts = .ok (joint, fs)) : joint = some j := by
  induction fs generalizing ts with
  | nil =>
    cases ts with
    | nil =>
      rw [moreClauses_nil] at h
      cases h
      rfl
    | cons t ts =>
      obtain ⟨_, _, _, _, _, _, _, _, same⟩ := moreClauses_cons_eq_ok_iff.mp h
      cases same
  | cons f fs ih =>
    cases ts with
    | nil =>
      rw [moreClauses_nil] at h
      cases h
    | cons t ts =>
      obtain ⟨k, _, _, _, _, known, _, more, same⟩ := moreClauses_cons_eq_ok_iff.mp h
      cases same
      obtain rfl : j = k := by simpa using known
      exact ih more

/-- Tokens that clauses were read from come from a text of such pieces. -/
theorem exists_clauses {before joint : Option Combinator} {cs : List Char} {ts rest : List Token}
    {f : Filter} {fs : List Filter} (scans : Scans cs ts []) (read : clause ts = .ok (f, rest))
    (more : moreClauses before rest = .ok (joint, fs)) :
    ∃ pieces, Clauses (joint.getD .and) cs pieces := by
  induction fs generalizing before cs ts rest f with
  | nil =>
    cases rest with
    | nil => exact ⟨_, .last scans read⟩
    | cons t rest =>
      obtain ⟨_, _, _, _, _, _, _, _, same⟩ := moreClauses_cons_eq_ok_iff.mp more
      cases same
  | cons g gs ih =>
    cases rest with
    | nil =>
      rw [moreClauses_nil] at more
      cases more
    | cons t rest =>
      obtain ⟨j, _, left, _, isJoint, -, readNext, more, same⟩ := moreClauses_cons_eq_ok_iff.mp more
      cases same
      obtain ⟨used, rfl, again⟩ := Local.clause _ _ _ read
      obtain ⟨behind, front, back⟩ := scans.split
      rw [← List.singleton_append] at back
      obtain ⟨left', word, scansNext⟩ := back.split
      obtain ⟨piece, rfl, -⟩ := front.alone
      obtain ⟨pieces, clauses⟩ := ih scansNext readNext more
      have joint : joint.getD .and = j := by rw [moreClauses_joint more]; rfl
      rw [joint] at clauses ⊢
      have alone := again []
      rw [List.append_nil] at alone
      exact ⟨_, .more front alone word isJoint clauses⟩

theorem clauses_eq_ok_iff {ts : List Token} {j : Combinator} {filters : List Filter} :
    clauses ts = .ok (j, filters) ↔ ∃ f rest joint fs, clause ts = .ok (f, rest) ∧
      moreClauses none rest = .ok (joint, fs) ∧ j = joint.getD .and ∧ filters = f :: fs := by
  simp only [clauses, bind_ok_iff]
  constructor
  · rintro ⟨⟨f, rest⟩, read, ⟨joint, fs⟩, more, h⟩
    cases h
    exact ⟨f, rest, joint, fs, read, more, rfl, rfl⟩
  · rintro ⟨f, rest, joint, fs, read, more, rfl, rfl⟩
    exact ⟨(f, rest), read, (joint, fs), more, rfl⟩

theorem scans_trim_iff {text : String} {ts : List Token} :
    Scans (Text.trim text).toList ts [] ↔ Scans text.toList ts [] := by
  rw [Text.trim, String.toList_ofList, Scans.trim_iff]

/-- The filters of a text whose tokens are clauses are collected. -/
theorem parse_eq_collect {text : String} {ts : List Token} {j : Combinator} {filters : List Filter}
    (scans : Scans text.toList ts []) (read : clauses ts = .ok (j, filters)) :
    parse text = collect j filters := by
  obtain ⟨placed, tokens, rfl⟩ := tokenize_iff.mpr (scans_trim_iff.mpr scans)
  have some : placed.isEmpty = false := by
    cases placed with
    | nil => cases read
    | cons => rfl
  have nonempty : (Text.trim text).isEmpty = false := by
    cases bare : (Text.trim text).isEmpty with
    | false => rfl
    | true =>
      rw [String.isEmpty_iff.mp bare, tokenize, String.toList_empty, tokensFrom] at tokens
      cases tokens
      cases some
  rw [parse, nonempty, tokens]
  change (if placed.isEmpty then _ else clauses (placed.map Placed.token) >>= _) = _
  rw [some, read]
  rfl

theorem parse_eq_ok_iff {text : String} {collection : Collection} :
    parse text = .ok collection ↔ ∃ ts j filters, Scans text.toList ts [] ∧
      clauses ts = .ok (j, filters) ∧ collect j filters = .ok collection := by
  constructor
  · intro h
    simp only [parse] at h
    split at h
    · cases h
    obtain ⟨placed, tokens, h⟩ := bind_ok_iff.mp h
    split at h
    · cases h
    obtain ⟨⟨j, filters⟩, read, collected⟩ := bind_ok_iff.mp h
    have scans := scans_trim_iff.mp (tokenize_iff.mp ⟨placed, tokens, rfl⟩)
    exact ⟨_, j, filters, scans, read, collected⟩
  · rintro ⟨ts, j, filters, scans, read, collected⟩
    rw [parse_eq_collect scans read, collected]

theorem collect_combinator {j : Combinator} {filters : List Filter} {collection : Collection}
    (h : collect j filters = .ok collection) : collection.combinator = j := by
  cases j with
  | or => cases h; rfl
  | and =>
    obtain ⟨result, -, same⟩ := bind_ok_iff.mp h
    cases same
    rfl

theorem exists_pieces {text : String} {collection : Collection}
    (accepted : parse text = .ok collection) :
    ∃ pieces, Clauses collection.combinator text.toList pieces := by
  obtain ⟨ts, joint, filters, scans, read, collected⟩ := parse_eq_ok_iff.mp accepted
  obtain ⟨f, rest, before, fs, readFirst, readMore, rfl, rfl⟩ := clauses_eq_ok_iff.mp read
  rw [collect_combinator collected]
  exact exists_clauses scans readFirst readMore

/-- However an accepted text is split, its collection is that of the filters of the pieces. A single
piece may be taken for one joined by either combinator. -/
theorem Clauses.collected {text : String} {collection : Collection} {j : Combinator}
    {pieces : List String} (split : Clauses j text.toList pieces)
    (accepted : parse text = .ok collection) :
    ∃ filters, List.Forall₂ IsClause pieces filters ∧
      collect collection.combinator filters = .ok collection ∧
      (collection.combinator = j ∨ ∃ f, filters = [f]) := by
  obtain ⟨ts, joint, filters, scans, read, collected⟩ := parse_eq_ok_iff.mp accepted
  obtain ⟨f, rest, before, fs, readFirst, readMore, rfl, rfl⟩ := clauses_eq_ok_iff.mp read
  obtain ⟨us, g, gs, rest', scansPieces, readFirst', readMore', each⟩ := split.filters
  -- the tokens of the pieces are those of the text, so that both give the same filters
  obtain rfl := scans.unique scansPieces
  rw [readFirst] at readFirst'
  cases readFirst'
  rw [readMore' none (.inl rfl)] at readMore
  cases readMore
  have combinator := collect_combinator collected
  refine ⟨f :: fs, each, combinator ▸ collected, ?_⟩
  rw [combinator]
  cases fs with
  | nil => exact .inr ⟨f, rfl⟩
  | cons => exact .inl rfl

end ODataQuery.Expression
