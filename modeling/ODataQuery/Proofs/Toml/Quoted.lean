import Mathlib.Data.List.Basic
import ODataQuery.Toml.Quoted

/-! Strings and keys in TOML: whatever form a writer takes, the reader reads the text again and stops
behind it. -/
namespace ODataQuery.Toml

/-- What a writer may put for a character between quotes that allow escapes; a line end stays where
there may be several lines. -/
inductive Spells (lines : Bool) (c : Char) : List Char → Prop
  | itself (inLine : isInLine c = true ∨ lines = true ∧ c = '\n') (plain : c ≠ '"' ∧ c ≠ '\\') :
      Spells lines c [c]
  | letter {l : Char} (stands : escaped? l = some c) : Spells lines c ['\\', l]
  | number {h l : Char} (stands : charOfHex? ['0', '0', h, l] = some c) :
      Spells lines c ['\\', 'u', '0', '0', h, l]

/-- Control characters have two digits in hexadecimal. -/
theorem exists_number {c : Char} (control : c.toNat < 32 ∨ c.toNat = 127) :
    ∃ h l, (Nat.toDigits 16 (c.toNat / 16) ++ Nat.toDigits 16 (c.toNat % 16)).map Char.toUpper =
      [h, l] ∧ charOfHex? ['0', '0', h, l] = some c := by
  have all : ∀ n : Fin 128, n.val < 32 ∨ n.val = 127 →
      let digits := (Nat.toDigits 16 (n.val / 16) ++ Nat.toDigits 16 (n.val % 16)).map Char.toUpper
      digits.length = 2 ∧ charOfHex? ('0' :: '0' :: digits) = some (Char.ofNat n.val) := by
    decide
  obtain ⟨two, stands⟩ := all ⟨c.toNat, by omega⟩ control
  obtain ⟨h, l, digits⟩ := List.length_eq_two.mp two
  rw [digits, Char.ofNat_toNat] at stands
  exact ⟨h, l, digits, stands⟩

theorem spells_escape (lines : Bool) {c : Char} (noQuote : c ≠ '"') :
    Spells lines c (escape lines c) := by
  unfold escape
  split
  case h_1 => exact .letter rfl
  case h_2 => exact .letter rfl
  case h_3 => exact .letter rfl
  case h_4 =>
    split
    case isTrue several => exact .itself (.inr ⟨several, rfl⟩) (by decide)
    case isFalse => exact .letter rfl
  case h_5 noBackslash noTab noReturn noLineEnd =>
    split
    case isTrue same => exact .letter (same ▸ rfl)
    split
    case isTrue same => exact .letter (same ▸ rfl)
    split
    case isTrue control =>
      obtain ⟨h, l, digits, stands⟩ := exists_number control
      rw [digits]
      exact .number stands
    case isFalse control =>
      refine .itself (.inl ?_) ⟨noQuote, noBackslash⟩
      simp [isInLine]
      omega

theorem escaped?_letter {l c : Char} (stands : escaped? l = some c) :
    l ≠ 'u' ∧ l ≠ 'U' ∧ isSpace l = false ∧ l ≠ '\n' ∧ l ≠ '\r' := by
  refine ⟨?_, ?_, ?_, ?_, ?_⟩
  · rintro rfl; cases stands
  · rintro rfl; cases stands
  · rw [isSpace, Bool.or_eq_false_iff, decide_eq_false_iff_not, decide_eq_false_iff_not]
    constructor <;> (rintro rfl; cases stands)
  · rintro rfl; cases stands
  · rintro rfl; cases stands

variable {c : Char} {cs done rest written : List Char}

theorem basic?_spells (spells : Spells false c written) :
    basic? done (written ++ rest) = basic? (c :: done) rest := by
  cases spells with
  | itself inLine plain =>
    have inLine : isInLine c = true := by simpa using inLine
    simp [basic?, plain, inLine]
  | letter stands =>
    obtain ⟨noU, noU', -⟩ := escaped?_letter stands
    simp [basic?, noU, noU', stands]
  | number stands => simp [basic?, stands]

/-- Where no quote stays as it is, every character is spelled on its own. -/
theorem escapeAll_cons (lines : Bool) (c : Char) (cs : List Char) :
    ∃ written, Spells lines c written ∧
      escapeAll lines 0 0 (c :: cs) = written ++ escapeAll lines 0 0 cs := by
  rw [escapeAll]
  split
  case isTrue quote =>
    subst quote
    exact ⟨['\\', '"'], .letter rfl, rfl⟩
  case isFalse noQuote => exact ⟨escape lines c, spells_escape lines noQuote, rfl⟩

theorem basic?_escapeAll (cs done rest : List Char) :
    basic? done (escapeAll false 0 0 cs ++ '"' :: rest) = some (done.reverse ++ cs, rest) := by
  induction cs generalizing done with
  | nil => simp [escapeAll, basic?]
  | cons c cs ih =>
    obtain ⟨written, spells, whole⟩ := escapeAll_cons false c cs
    rw [whole, List.append_assoc, basic?_spells spells, ih]
    simp

theorem literal?_append (free : ∀ c ∈ cs, isInLine c = true ∧ c ≠ '\'') (done rest : List Char) :
    literal? done (cs ++ '\'' :: rest) = some (done.reverse ++ cs, rest) := by
  induction cs generalizing done with
  | nil => simp [literal?]
  | cons c cs ih =>
    obtain ⟨⟨inLine, noQuote⟩, others⟩ := List.forall_mem_cons.mp free
    rw [List.cons_append, literal?, if_pos inLine, ih others]
    · simp
    · exact noQuote

theorem basicLines?_spells (spells : Spells true c written) :
    basicLines? false done (written ++ rest) = basicLines? false (c :: done) rest := by
  cases spells with
  | itself inLine plain =>
    have inLine : isInLine c = true ∨ c = '\n' := by simpa using inLine
    have noReturn : c ≠ '\r' := by rintro rfl; revert inLine; decide
    simp [basicLines?, plain, inLine, noReturn]
  | letter stands =>
    obtain ⟨noU, noU', noSpace, noLineEnd, noReturn⟩ := escaped?_letter stands
    simp [basicLines?, noU, noU', stands, noSpace, noLineEnd, noReturn, startsWithLineEnd]
  | number stands => simp [basicLines?, stands]

theorem Spells.head {lines : Bool} (spells : Spells lines c written) :
    ∃ a more, written = a :: more ∧ a ≠ '"' := by
  cases spells with
  | itself _ plain => exact ⟨c, [], rfl, plain.1⟩
  | letter => exact ⟨'\\', _, rfl, by decide⟩
  | number => exact ⟨'\\', _, rfl, by decide⟩

/-- Behind two quotes, and for any other character, no quote is written. -/
theorem escapeAll_head {run : Nat} (escapes : c = '"' → 2 ≤ run) (cs : List Char) :
    ∃ a more, escapeAll true 2 run (c :: cs) = a :: more ∧ a ≠ '"' := by
  rw [escapeAll]
  split
  case isTrue quote =>
    rw [if_neg (Nat.not_lt.mpr (escapes quote))]
    exact ⟨'\\', _, rfl, by decide⟩
  case isFalse noQuote =>
    obtain ⟨a, more, same, other⟩ := (spells_escape true noQuote).head
    exact ⟨a, more ++ escapeAll true 2 0 cs, by rw [same, List.cons_append], other⟩

/-- A quote with no two others behind it belongs to the text. -/
theorem basicLines?_quote (done : List Char) {tail : List Char}
    (lone : ∀ rest, tail ≠ '"' :: '"' :: rest) :
    basicLines? false done ('"' :: tail) = basicLines? false ('"' :: done) tail := by
  rw [basicLines?.eq_9]
  · simp [isInLine]
  all_goals simp_all

/-- Behind a quote that stays as it is, two others follow only where the text ends. -/
theorem escapeAll_lone {run : Nat} (cs rest : List Char) (few : cs ≠ []) (free : run < 2)
    (more : cs ≠ ['"'] ∨ 0 < run) (left : List Char) :
    escapeAll true 2 (run + 1) cs ++ rest ≠ '"' :: '"' :: left := by
  obtain ⟨c, cs, rfl⟩ := List.exists_cons_of_ne_nil few
  by_cases second : c = '"' ∧ run = 0
  · obtain ⟨rfl, rfl⟩ := second
    obtain ⟨d, cs, rfl⟩ := List.exists_cons_of_ne_nil fun none => more.elim (· (none ▸ rfl)) (by simp)
    obtain ⟨a, behind, same, other⟩ :=
      escapeAll_head (fun _ : d = '"' => Nat.le_refl 2) cs
    rw [escapeAll, if_pos rfl, if_pos (by decide), same]
    simp [other]
  · have escapes : c = '"' → 2 ≤ run + 1 := fun quote =>
      Nat.succ_le_succ (Nat.pos_of_ne_zero fun none => second ⟨quote, none⟩)
    obtain ⟨a, behind, same, other⟩ := escapeAll_head escapes cs
    rw [same]
    simp [other]

theorem basicLines?_escapeAll (cs : List Char) (run : Nat) (done : List Char) {rest : List Char}
    (apart : ∀ more, rest ≠ '"' :: more) :
    basicLines? false done (escapeAll true 2 run cs ++ '"' :: '"' :: '"' :: rest) =
      some (done.reverse ++ cs, rest) := by
  induction cs generalizing run done with
  | nil =>
    rw [escapeAll, List.nil_append, basicLines?.eq_4, List.append_nil]
    · exact fun more => apart _
    · exact apart
  | cons c cs ih =>
    by_cases quote : c = '"'
    · subst quote
      by_cases free : run < 2
      · rw [escapeAll, if_pos rfl, if_pos free, List.cons_append]
        -- At the end of the text its quotes are read with those that close it.
        by_cases last : cs = [] ∨ cs = ['"'] ∧ run = 0
        · rcases last with rfl | ⟨rfl, rfl⟩
          · rw [escapeAll, List.nil_append, basicLines?.eq_3 _ _ _ apart, List.reverse_cons]
          · simp [escapeAll, basicLines?]
        · obtain ⟨few, more⟩ := not_or.mp last
          have lone := escapeAll_lone cs ('"' :: '"' :: '"' :: rest) few free
            ((not_and_or.mp more).imp_right Nat.pos_of_ne_zero)
          rw [basicLines?_quote done lone, ih]
          simp
      · have spells : Spells true '"' ['\\', '"'] := .letter rfl
        rw [escapeAll, if_pos rfl, if_neg free]
        refine (basicLines?_spells spells).trans ((ih 0 ('"' :: done)).trans ?_)
        simp
    · rw [escapeAll, if_neg quote, List.append_assoc, basicLines?_spells (spells_escape true quote), ih]
      simp

/-- Characters that may stand between quotes that allow no escapes. -/
def Plain (lines : Bool) (cs : List Char) : Prop :=
  ∀ c ∈ cs, isInLine c = true ∨ lines = true ∧ c = '\n'

theorem literalLines?_one (done : List Char) {tail : List Char}
    (free : isInLine c = true ∨ c = '\n') (lone : c = '\'' → ∀ rest, tail ≠ '\'' :: '\'' :: rest) :
    literalLines? done (c :: tail) = literalLines? (c :: done) tail := by
  have noReturn : c ≠ '\r' := by rintro rfl; revert free; decide
  rw [literalLines?.eq_6, if_pos free]
  · rintro rest same rfl
    exact lone same _ rfl
  · rintro rest same rfl
    exact lone same _ rfl
  · rintro rest same rfl
    exact lone same _ rfl
  · exact fun _ same => absurd same noReturn

/-- Of a text with at most two quotes in a row, two others follow a quote only where the text ends. -/
theorem lone_of_longestRun {run : Nat} (rest : List Char) (some : cs ≠ []) (more : cs ≠ ['\''])
    (few : longestRun '\'' (run + 1) cs ≤ 2) (left : List Char) :
    cs ++ rest ≠ '\'' :: '\'' :: left := by
  match cs with
  | [c] =>
    intro same
    obtain ⟨rfl, -⟩ := List.cons_eq_cons.mp same
    exact more rfl
  | c :: d :: cs =>
    intro same
    obtain ⟨rfl, rfl, -⟩ := by simpa using same
    rw [longestRun, if_pos rfl, longestRun, if_pos rfl] at few
    have two := (Nat.max_le.mp (Nat.max_le.mp few).2).1
    omega

theorem literalLines?_append {run : Nat} (free : Plain true cs) (few : longestRun '\'' run cs ≤ 2)
    (done : List Char) {rest : List Char} (apart : ∀ more, rest ≠ '\'' :: more) :
    literalLines? done (cs ++ '\'' :: '\'' :: '\'' :: rest) = some (done.reverse ++ cs, rest) := by
  induction cs generalizing run done with
  | nil =>
    rw [List.nil_append, literalLines?.eq_4, List.append_nil]
    · exact fun more => apart _
    · exact apart
  | cons c cs ih =>
    obtain ⟨first, others⟩ := List.forall_mem_cons.mp free
    have first : isInLine c = true ∨ c = '\n' := by simpa using first
    rw [List.cons_append]
    by_cases quote : c = '\''
    · subst quote
      have fewer : longestRun '\'' (run + 1) cs ≤ 2 := by
        rw [longestRun, if_pos rfl] at few
        exact (Nat.max_le.mp few).2
      -- At the end of the text its quotes are read with those that close it.
      by_cases none : cs = []
      · rw [none, List.nil_append, literalLines?.eq_3 _ _ apart, List.reverse_cons]
      by_cases one : cs = ['\'']
      · simp [one, literalLines?]
      · have lone := lone_of_longestRun ('\'' :: '\'' :: '\'' :: rest) none one fewer
        rw [literalLines?_one done first fun _ => lone, ih others fewer]
        simp
    · have fewer : longestRun '\'' 0 cs ≤ 2 := by
        rwa [longestRun, if_neg quote] at few
      rw [literalLines?_one done first fun same => absurd same quote, ih others fewer]
      simp

theorem not_mem_of_longestRun {run : Nat} (none : longestRun c run cs = 0) : c ∉ cs := by
  induction cs generalizing run with
  | nil => exact List.not_mem_nil
  | cons d cs ih =>
    rw [longestRun] at none
    split at none
    case isTrue =>
      have := Nat.max_eq_zero_iff.mp none
      omega
    case isFalse other =>
      exact List.not_mem_cons_of_ne_of_not_mem (Ne.symm other) (ih none)

theorem plain_of_any (none : cs.any needsEscape = false) : Plain true cs := by
  intro c member
  have := List.any_eq_false.mp none c member
  simpa [needsEscape, or_iff_not_imp_left] using this

/-- The line end that a writer puts in front of several lines is no part of them. -/
theorem dropLineEnd_lines {quote : Char} (apart : quote ≠ '\n' ∧ quote ≠ '\r') (body rest : List Char) :
    dropLineEnd ((if body.contains '\n' then ['\n'] else []) ++ (body ++ quote :: rest)) =
      body ++ quote :: rest := by
  split
  case isTrue => rfl
  case isFalse single =>
    have single : '\n' ∉ body := by simpa using single
    rw [List.nil_append]
    unfold dropLineEnd
    split
    case h_1 left same => cases body <;> simp_all
    case h_2 left same => rcases body with _ | ⟨a, _ | ⟨b, body⟩⟩ <;> simp_all
    case h_3 => rfl

/-- A string behind one quote is not taken for one behind three. -/
theorem quoted?_of_one {quote next : Char} {tail : List Char} (other : next ≠ quote) :
    quoted? (quote :: next :: tail) = oneLine? (quote :: next :: tail) := by
  refine quoted?.eq_3 _ ?_ ?_
  · rintro rest same
    obtain ⟨rfl, rfl, -⟩ := by simpa using same
    exact other rfl
  · rintro rest same
    obtain ⟨rfl, rfl, -⟩ := by simpa using same
    exact other rfl

theorem quoted?_of_empty {quote : Char} {rest : List Char} (apart : ∀ more, rest ≠ quote :: more) :
    quoted? (quote :: quote :: rest) = oneLine? (quote :: quote :: rest) := by
  refine quoted?.eq_3 _ ?_ ?_
  · rintro more same
    obtain ⟨rfl, -, rfl⟩ := by simpa using same
    exact apart _ rfl
  · rintro more same
    obtain ⟨rfl, -, rfl⟩ := by simpa using same
    exact apart _ rfl

theorem quoted?_of_other {c : Char} (other : c ≠ '"' ∧ c ≠ '\'') (cs : List Char) :
    quoted? (c :: cs) = none := by
  rw [quoted?.eq_3]
  · simp [oneLine?, other]
  all_goals simp [other]

theorem quoted?_basic (cs : List Char) {rest : List Char} (apart : ∀ more, rest ≠ '"' :: more) :
    quoted? ('"' :: (escapeAll false 0 0 cs ++ '"' :: rest)) = some (cs, rest) := by
  have read : oneLine? ('"' :: (escapeAll false 0 0 cs ++ '"' :: rest)) = some (cs, rest) :=
    basic?_escapeAll cs [] rest
  rw [← read]
  cases cs with
  | nil => exact quoted?_of_empty apart
  | cons c cs =>
    obtain ⟨written, spells, whole⟩ := escapeAll_cons false c cs
    obtain ⟨a, more, rfl, other⟩ := spells.head
    rw [whole]
    exact quoted?_of_one other

theorem quoted?_literal (plain : Plain false cs) (noQuote : '\'' ∉ cs) {rest : List Char}
    (apart : ∀ more, rest ≠ '\'' :: more) :
    quoted? ('\'' :: (cs ++ '\'' :: rest)) = some (cs, rest) := by
  have free : ∀ c ∈ cs, isInLine c = true ∧ c ≠ '\'' := fun c member =>
    ⟨by simpa using plain c member, fun same => noQuote (same ▸ member)⟩
  have read : oneLine? ('\'' :: (cs ++ '\'' :: rest)) = some (cs, rest) :=
    literal?_append free [] rest
  rw [← read]
  cases cs with
  | nil => exact quoted?_of_empty apart
  | cons c cs => exact quoted?_of_one fun same => noQuote (same ▸ List.mem_cons_self)

/-- A string is read again whatever stands behind it, but for another quote. -/
theorem quoted?_stringText (s : String) (rest : List Char)
    (apart : ∀ more, rest ≠ '"' :: more ∧ rest ≠ '\'' :: more) :
    quoted? (stringText s ++ rest) = some (s.toList, rest) := by
  have double : ∀ more, rest ≠ '"' :: more := fun more => (apart more).1
  have single : ∀ more, rest ≠ '\'' :: more := fun more => (apart more).2
  have basic : quoted? ('"' :: (escapeAll false 0 0 s.toList ++ ['"']) ++ rest) =
      some (s.toList, rest) := by
    simpa using quoted?_basic s.toList double
  have lines : quoted? (tripled '"' (escapeAll true 2 0 s.toList) ++ rest) =
      some (s.toList, rest) := by
    have read := basicLines?_escapeAll s.toList 0 [] double
    rw [← dropLineEnd_lines (by decide)] at read
    simpa [tripled, quoted?] using read
  unfold stringText
  dsimp only
  split
  · exact basic
  split
  case isTrue clean =>
    obtain ⟨control, singles, several⟩ := clean
    have plain : Plain false s.toList := by
      intro c member
      refine .inl ((plain_of_any (by simpa using control) c member).resolve_right ?_)
      rintro ⟨-, rfl⟩
      simp [member] at several
    simpa using quoted?_literal plain (not_mem_of_longestRun singles) single
  split
  · exact lines
  split
  case isTrue clean =>
    obtain ⟨control, singles⟩ := clean
    have plain : Plain true s.toList := plain_of_any (by simpa using control)
    have read := literalLines?_append plain singles [] single
    rw [← dropLineEnd_lines (by decide)] at read
    simpa [tripled, quoted?] using read
  split
  · exact lines
  · exact basic

end ODataQuery.Toml
