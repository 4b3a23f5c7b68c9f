import ODataQuery.Proofs.Expression.Places
import ODataQuery.Proofs.Expression.Splitting

/-! What an error says about its place. Only reading tokens reports a place, and it counts from the first
character that is no blank, because the blanks in front of an expression are dropped before: the
character reported stands so many bytes behind them. -/
namespace ODataQuery

/-- The byte position that a report is about, if it is about one. -/
def FilterError.position? : FilterError → Option Nat
  | unexpectedCharacter _ position | unterminatedString position => some position
  | _ => none

namespace Expression

/-- When the step fails, its report is about no position. -/
structure Unplaced (step : Except FilterError α) : Prop where
  position : ∀ e, step = .error e → e.position? = none

namespace Unplaced

theorem ok (a : α) : Unplaced (.ok a : Except FilterError α) := ⟨by rintro e ⟨⟩⟩

theorem error {e : FilterError} (h : e.position? = none) :
    Unplaced (.error e : Except FilterError α) :=
  ⟨by rintro _ ⟨⟩; exact h⟩

theorem bind {step : Except FilterError α} {next : α → Except FilterError β} (first : Unplaced step)
    (second : ∀ a, Unplaced (next a)) : Unplaced (step >>= next) := by
  cases step with
  | error e => exact error (first.position e rfl)
  | ok a => exact second a

theorem map {step : Except FilterError α} (first : Unplaced step) (f : α → β) :
    Unplaced (step.map f) := by
  cases step with
  | error e => exact error (first.position e rfl)
  | ok a => exact ok (f a)

theorem next (ts : List Token) : Unplaced (next ts) := by
  cases ts with
  | nil => exact error rfl
  | cons t rest => exact ok _

theorem literalOfToken (t : Token) : Unplaced (literalOfToken t) := by
  cases t with
  | quoted | word => exact ok _
  | symbol | openParen | closeParen | comma => exact error rfl

theorem literal (ts : List Token) : Unplaced (literal ts) :=
  (next ts).bind fun _ => (literalOfToken _).bind fun _ => ok _

theorem expect (wanted : Token → Bool) (ts : List Token) : Unplaced (expect wanted ts) := by
  refine (next ts).bind fun _ => ?_
  dsimp only
  split
  · exact ok _
  · exact error rfl

theorem moreLiterals (ts : List Token) : Unplaced (moreLiterals ts) := by
  fun_induction Expression.moreLiterals ts with
  | case1 | case3 => exact error rfl
  | case2 => exact ok _
  | case4 t rest ih => exact (literalOfToken t).bind fun _ => ih.bind fun _ => ok _
  | case5 => exact error rfl

theorem literals (ts : List Token) : Unplaced (literals ts) :=
  (expect _ ts).bind fun _ => (literal _).bind fun _ => (moreLiterals _).bind fun _ => ok _

theorem amountOfToken (t : Token) : Unplaced (amountOfToken t) := by
  unfold Expression.amountOfToken
  split
  · split
    · exact ok _
    · exact error rfl
  · exact error rfl

theorem unitOfToken (t : Token) : Unplaced (unitOfToken t) := by
  unfold Expression.unitOfToken
  split
  · split
    · exact ok _
    · exact error rfl
  · exact error rfl

theorem relative (ts : List Token) : Unplaced (relative ts) :=
  (next ts).bind fun _ => (amountOfToken _).bind fun _ => (next _).bind fun _ =>
    (unitOfToken _).bind fun _ => ok _

theorem make (field : String) (operator : Operator) (payload : Payload) :
    Unplaced (Filter.make field operator payload) := by
  unfold Filter.make
  split
  · exact ok _
  · exact error rfl

theorem comparison (field : String) (operator : Operator) (value : Literal) :
    Unplaced (comparison field operator value) := by
  unfold Expression.comparison
  split
  · exact make ..
  · split
    · exact make ..
    · exact make ..
    · exact error rfl
  · split
    · exact error rfl
    · split <;> exact make ..

theorem rangeBetween (field : String) (low high : Literal) :
    Unplaced (rangeBetween field low high) := by
  unfold Expression.rangeBetween
  split
  · exact ok _
  · exact ok _
  · exact error rfl

theorem negated (field : String) (ts : List Token) : Unplaced (negated field ts) := by
  refine (next ts).bind fun _ => ?_
  dsimp only
  split
  · exact (literals _).bind fun _ => (make ..).bind fun _ => ok _
  split
  · exact (literal _).bind fun _ => (comparison ..).bind fun _ => ok _
  · exact error rfl

theorem afterWord (field word : String) (ts : List Token) :
    Unplaced (afterWord field word ts) := by
  unfold Expression.afterWord
  split
  · exact (make ..).bind fun _ => ok _
  · exact (make ..).bind fun _ => ok _
  · exact (literal ts).bind fun _ => (expect ..).bind fun _ => (literal _).bind fun _ =>
      (rangeBetween ..).bind fun _ => ok _
  · exact (literals ts).bind fun _ => (make ..).bind fun _ => ok _
  · exact negated field ts
  · exact (relative ts).bind fun _ => ok _
  · exact (relative ts).bind fun _ => ok _
  · split
    · exact error rfl
    · exact (literal ts).bind fun _ => (comparison ..).bind fun _ => ok _

theorem fieldOfToken (t : Token) : Unplaced (fieldOfToken t) := by
  cases t with
  | word => exact ok _
  | quoted | symbol | openParen | closeParen | comma => exact error rfl

theorem afterField (field : String) (t : Token) (ts : List Token) :
    Unplaced (afterField field t ts) := by
  cases t with
  | symbol => exact (literal ts).bind fun _ => (comparison ..).bind fun _ => ok _
  | word w => exact afterWord field w ts
  | quoted | openParen | closeParen | comma => exact error rfl

theorem clause (ts : List Token) : Unplaced (clause ts) :=
  (next ts).bind fun _ => (fieldOfToken _).bind fun _ => (next _).bind fun _ => afterField ..

theorem combinatorOfToken (t : Token) : Unplaced (combinatorOfToken t) := by
  unfold Expression.combinatorOfToken
  split
  · exact ok _
  split
  · exact ok _
  · exact error rfl

theorem moreClauses (joint : Option Combinator) (ts : List Token) :
    Unplaced (moreClauses joint ts) := by
  fun_induction Expression.moreClauses joint ts with
  | case1 => exact ok _
  | case2 joint t rest e failed => exact error ((combinatorOfToken t).position e failed)
  | case3 => exact error rfl
  | case4 joint t rest j read single e failed => exact error ((clause rest).position e failed)
  | case5 joint t rest j read single f left clause ih => exact ih.bind fun _ => ok _

theorem clauses (ts : List Token) : Unplaced (clauses ts) :=
  (clause ts).bind fun _ => (moreClauses ..).bind fun _ => ok _

theorem insertClause (f : Filter) (folded : List Filter) : Unplaced (insertClause f folded) := by
  fun_induction Expression.insertClause f folded with
  | case1 => exact ok _
  | case2 => exact ok _
  | case3 => exact ok _
  | case4 => exact error rfl
  | case5 g rest other ih => exact ih.map _

theorem conjunction (filters : List Filter) : Unplaced (conjunction filters) := by
  unfold Expression.conjunction
  generalize ([] : List Filter) = folded
  induction filters generalizing folded with
  | nil => exact ok _
  | cons f rest ih => exact (insertClause f folded).bind fun _ => ih _

theorem collect (j : Combinator) (filters : List Filter) : Unplaced (collect j filters) := by
  cases j with
  | and => exact (conjunction filters).bind fun _ => ok _
  | or => exact ok _

end Unplaced

/-- An error about a place is one of reading the tokens of the trimmed text. -/
theorem tokenize_of_position? {s : String} {e : FilterError} {position : Nat}
    (failed : parse s = .error e) (placed : e.position? = some position) :
    tokenize (Text.trim s) = .error e := by
  have elsewhere {step : Except FilterError Collection} (unplaced : Unplaced step) : step ≠ .error e := by
    intro stopped
    rw [unplaced.position e stopped] at placed
    cases placed
  simp only [parse] at failed
  split at failed
  · cases failed
    cases placed
  cases read : tokenize (Text.trim s) with
  | error e' =>
    rw [read] at failed
    cases failed
    rfl
  | ok tokens =>
    rw [read] at failed
    refine absurd failed (elsewhere ?_)
    refine (Unplaced.ok tokens).bind fun tokens => ?_
    split
    · exact .error rfl
    · exact (Unplaced.clauses _).bind fun _ => .collect _ _

def indent (s : String) : List Char := s.toList.takeWhile Text.isBlank

/-- The bytes of a text from a position on begin with a character. -/
def BeginsAt (s : String) (position : Nat) (c : Char) : Prop :=
  String.utf8EncodeChar c <+: s.toByteArray.data.toList.drop position

instance (s : String) (position : Nat) (c : Char) : Decidable (BeginsAt s position c) :=
  inferInstanceAs (Decidable (_ <+: _))

theorem length_bytes (cs : List Char) :
    (cs.flatMap String.utf8EncodeChar).length = byteLength cs := by
  induction cs with
  | nil => rfl
  | cons c cs ih =>
    rw [List.flatMap_cons, List.length_append, ih, String.length_utf8EncodeChar, byteLength_cons]

/-- A character begins behind the bytes of those in front of it. -/
theorem beginsAt_byteLength {s : String} {before behind : List Char} {c : Char}
    (whole : s.toList = before ++ c :: behind) : BeginsAt s (byteLength before) c := by
  refine ⟨behind.flatMap String.utf8EncodeChar, ?_⟩
  rw [Text.toByteArray_eq, whole]
  simp [← length_bytes]

/-- A place where no token begins is still one when blanks follow the text. -/
theorem NoToken.append_blanks {c : Char} {behind blanks : List Char} (h : NoToken c behind)
    (blank : ∀ b ∈ blanks, Text.isBlank b = true) : NoToken c (behind ++ blanks) where
  notBlank := h.notBlank
  unspelled t source left whole spelled := by
    have whole' : (c :: behind) ++ blanks = source ++ left := whole
    obtain ⟨more, split, -, alone⟩ := spelled.in_front_of_blanks whole' blank
    exact h.unspelled t source more split alone

/-- A text is its indent, what is left of it by trimming, and blanks. -/
theorem exists_indented (s : String) :
    ∃ back, s.toList = indent s ++ (Text.trimChars s.toList ++ back) ∧
      ∀ b ∈ back, Text.isBlank b = true := by
  obtain ⟨back, whole, blank⟩ :=
    Text.dropEndWhile_append Text.isBlank (s.toList.dropWhile Text.isBlank)
  refine ⟨back, ?_, blank⟩
  rw [Text.trimChars, ← whole, indent, List.takeWhile_append_dropWhile]

/-- A report about a place is about a character at which no token begins, and everything in front of
this character can be read. The place counts from the end of the indent, so that it is the byte position
of the character just when the text has none. -/
theorem parse_place {s : String} {e : FilterError} {position : Nat} (failed : parse s = .error e)
    (placed : e.position? = some position) :
    ∃ before c behind, s.toList = before ++ c :: behind ∧ NoToken c behind ∧
      Reported position c e ∧ (∃ tokens, tokenize (String.ofList before) = .ok tokens) ∧
      byteLength before = byteLength (indent s) + position ∧
      BeginsAt s (byteLength (indent s) + position) c ∧
      (position = byteLength before ↔ indent s = []) := by
  have read : tokensFrom 0 (Text.trim s).toList = .error e := tokenize_of_position? failed placed
  obtain ⟨front, c, behind, ts, trimmed, scans, noToken, reported⟩ := exists_reported read
  obtain ⟨back, whole, blank⟩ := exists_indented s
  rw [Text.trim, String.toList_ofList] at trimmed
  rw [trimmed] at whole
  have told : position = byteLength front := by
    cases reported <;> cases placed <;> exact Nat.zero_add _
  have blankFront : ∀ b ∈ indent s, Text.isBlank b = true := fun b => List.mem_takeWhile_imp
  rw [Nat.zero_add, ← told] at reported
  have split : s.toList = (indent s ++ front) ++ c :: (behind ++ back) := by simpa using whole
  have size : byteLength (indent s ++ front) = byteLength (indent s) + position := by
    rw [byteLength_append, told]
  have scansFront : Scans (String.ofList (indent s ++ front)).toList ts [] := by
    rw [String.toList_ofList]
    exact (Scans.blanks_append_iff blankFront).mpr scans
  obtain ⟨tokens, readFront, -⟩ := tokenize_iff.mpr scansFront
  refine ⟨indent s ++ front, c, behind ++ back, split, noToken.append_blanks blank, reported,
    ⟨tokens, readFront⟩, size, size ▸ beginsAt_byteLength split, ?_⟩
  constructor
  · intro same
    by_contra indented
    have bytes := byteLength_pos indented
    omega
  · intro none
    rw [size, none]
    exact (Nat.zero_add _).symm

/-- An ideographic space takes three bytes. -/
theorem parse_place_wide :
    parse "\u3000Name ~ 1" = .error (.unexpectedCharacter '~' 5) ∧
      ∃ before behind, "\u3000Name ~ 1".toList = before ++ '~' :: behind ∧ NoToken '~' behind ∧
        byteLength before = 8 ∧ BeginsAt "\u3000Name ~ 1" 8 '~' := by
  have failed : parse "\u3000Name ~ 1" = .error (.unexpectedCharacter '~' 5) := by decide +kernel
  have blank : byteLength (indent "\u3000Name ~ 1") = 3 := by decide
  obtain ⟨before, c, behind, whole, noToken, reported, -, size, begins, -⟩ := parse_place failed rfl
  rw [blank] at size begins
  cases reported
  exact ⟨failed, before, behind, whole, noToken, size, begins⟩

/-- The character stands behind the position that is reported. -/
theorem parse_place_behind_blank :
    parse " #" = .error (.unexpectedCharacter '#' 0) ∧ ¬ BeginsAt " #" 0 '#' ∧ BeginsAt " #" 1 '#' := by
  decide +kernel

end Expression
end ODataQuery
