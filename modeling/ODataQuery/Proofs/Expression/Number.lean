import ODataQuery.Proofs.Expression.Numeral

/-! Numbers among the tokens. All that a number is spelled with belongs to words, so that a number is
one word of an expression wherever a word can begin; only a number that begins with its point does not
begin as words do, and no token begins there. -/
namespace ODataQuery

open Expression (isWordChar isWordChar_of_start)

theorem isWordChar_of_decimal {c : Char} (h : isDigit c = true) : isWordChar c = true :=
  isWordChar_of_start (Numeral.isWordStart_of_decimal h)

/-- Small letters, and those that become small letters, belong to words. -/
theorem isWordChar_of_toLower {c : Char} (low : 'a' ≤ c.toLower) (high : c.toLower ≤ 'z') :
    isWordChar c = true := by
  have bounds : 65 ≤ c.toNat ∧ c.toNat ≤ 90 ∨ 97 ≤ c.toNat ∧ c.toNat ≤ 122 := by
    by_cases upper : 'A' ≤ c ∧ c ≤ 'Z'
    · exact .inl upper
    · have same : c.toLower = c := dif_neg upper
      rw [same] at low high
      exact .inr ⟨low, high⟩
  rw [← Char.ofNat_toNat c]
  rcases bounds with ⟨low, high⟩ | ⟨low, high⟩ <;> interval_cases c.toNat <;> decide

theorem mem_splitSign {cs : List Char} {c : Char} (member : c ∈ cs) :
    c = '-' ∨ c = '+' ∨ c ∈ (splitSign cs).2 := by
  unfold splitSign
  split
  · exact (List.mem_cons.mp member).imp_right .inr
  · exact .inr (List.mem_cons.mp member)
  · exact .inr (.inr member)

theorem isWordChar_of_splitSign {cs : List Char}
    (word : ∀ c ∈ (splitSign cs).2, isWordChar c = true) : ∀ c ∈ cs, isWordChar c = true := by
  intro c member
  rcases mem_splitSign member with rfl | rfl | rest
  · decide
  · decide
  · exact word c rest

namespace Binary64

theorem isWordChar_of_exponentOf? {cs : List Char} {e : Int} (read : exponentOf? cs = some e) :
    ∀ c ∈ cs, isWordChar c = true := by
  obtain ⟨n, number, -⟩ := Option.bind_eq_some_iff.mp read
  refine isWordChar_of_splitSign fun c digit => ?_
  exact isWordChar_of_decimal (decimal_of_natOfDigits? number c digit)

/-- Behind the digits stands nothing, or the mark of an exponent and the exponent. -/
theorem isWordChar_of_rest {rest : List Char} {made : Int → Option Decimal} {d : Decimal}
    (read : (match rest with
      | [] => some 0 >>= made
      | c :: more => if c = 'e' ∨ c = 'E' then exponentOf? more >>= made else none >>= made) =
        some d) : ∀ c ∈ rest, isWordChar c = true := by
  split at read
  · intro c member
    cases member
  · split at read
    · rename_i mark
      obtain ⟨e, exponent, -⟩ := Option.bind_eq_some_iff.mp read
      refine List.forall_mem_cons.mpr ⟨?_, isWordChar_of_exponentOf? exponent⟩
      rcases mark with rfl | rfl <;> decide
    · cases read

/-- Taking the digits off the front leaves it open whether the rest belongs to words. -/
theorem isWordChar_of_dropWhile {cs : List Char}
    (word : ∀ c ∈ cs.dropWhile isDigit, isWordChar c = true) : ∀ c ∈ cs, isWordChar c = true := by
  intro c member
  rw [← List.takeWhile_append_dropWhile (p := isDigit) (l := cs)] at member
  rcases List.mem_append.mp member with digit | rest
  · exact isWordChar_of_decimal (List.mem_takeWhile_imp digit)
  · exact word c rest

theorem isWordChar_of_decimalOf? {cs : List Char} {d : Decimal} (read : decimalOf? cs = some d) :
    ∀ c ∈ cs, isWordChar c = true := by
  refine isWordChar_of_dropWhile ?_
  unfold decimalOf? at read
  dsimp only at read
  split at read
  · rename_i more point
    split at read
    · cases read
    · rw [point]
      refine List.forall_mem_cons.mpr ⟨by decide, ?_⟩
      exact isWordChar_of_dropWhile (isWordChar_of_rest read)
  · split at read
    · cases read
    · exact isWordChar_of_rest read

theorem isWordChar_of_letters {cs letters : List Char} (same : cs.map Char.toLower = letters)
    (small : letters.all (fun k => decide ('a' ≤ k ∧ k ≤ 'z')) = true) :
    ∀ c ∈ cs, isWordChar c = true := by
  intro c member
  have letter := List.all_eq_true.mp small c.toLower (same ▸ List.mem_map_of_mem member)
  obtain ⟨low, high⟩ := of_decide_eq_true letter
  exact isWordChar_of_toLower low high

/-- Digits, signs, points and letters: what is read as a number is made of characters of words. -/
theorem isWordChar_of_ofText? {s : String} {x : Binary64} (read : ofText? s = some x) :
    ∀ c ∈ s.toList, isWordChar c = true := by
  refine isWordChar_of_splitSign ?_
  unfold ofText? at read
  dsimp only at read
  split at read
  · rename_i nan
    exact isWordChar_of_letters nan (by decide)
  split at read
  · rename_i infinite
    rcases infinite with inf | infinity
    · exact isWordChar_of_letters inf (by decide)
    · exact isWordChar_of_letters infinity (by decide)
  · obtain ⟨d, decimal, -⟩ := Option.map_eq_some_iff.mp read
    exact isWordChar_of_decimalOf? decimal

end Binary64

namespace Expression

theorem of_literalOfWord {word : String} {x : Binary64} (number : literalOfWord word = .number x) :
    startsLikeNumber word = true ∧ Binary64.ofText? word = some x := by
  unfold literalOfWord at number
  split at number
  · cases number
  split at number
  · cases number
  split at number
  · cases number
  split at number
  · rename_i read
    cases number
    unfold numberOfWord? at read
    split at read
    · rename_i starts
      exact ⟨starts, read⟩
    · cases read
  · split at number
    · cases number
    split at number <;> cases number

theorem number_cases {word : String} {x : Binary64} (number : literalOfWord word = .number x) :
    (∃ rest, word.toList = '.' :: rest) ∨ word.toList.head? ≠ some '.' ∧ IsWord word.toList := by
  obtain ⟨starts, read⟩ := of_literalOfWord number
  have chars := Binary64.isWordChar_of_ofText? read
  cases whole : word.toList with
  | nil =>
    rw [startsLikeNumber, whole] at starts
    cases starts
  | cons c rest =>
    rw [whole] at chars
    by_cases point : c = '.'
    · exact .inl ⟨rest, by rw [point]⟩
    · refine .inr ⟨by simpa using point, isWord_cons_iff.mpr ⟨?_, (List.forall_mem_cons.mp chars).2⟩⟩
      rw [startsLikeNumber, whole] at starts
      simp only [Bool.or_eq_true, decide_eq_true_eq, point, or_false] at starts
      rcases starts with (digit | rfl) | rfl
      · exact Numeral.isWordStart_of_decimal digit
      · decide
      · decide

theorem tokensFrom_word {w : String} {left : List Char} (isWord : IsWord w.toList)
    (apart : ∀ c ∈ left.head?, isWordChar c = false) (position : Nat) :
    tokensFrom position (w.toList ++ left) =
      (tokensFrom (position + byteLength w.toList) left).map (⟨position, .word w⟩ :: ·) := by
  have spelled : Spelled (.word (String.ofList w.toList)) w.toList left := .word isWord apart
  rw [String.ofList_toList] at spelled
  exact tokensFrom_spelled spelled position

theorem tokensFrom_space (position : Nat) (left : List Char) :
    tokensFrom position (' ' :: left) = tokensFrom (position + 1) left := by
  have blank : Text.isBlank ' ' = true := by decide
  rw [tokensFrom, if_pos blank]
  rfl

theorem tokensFrom_point (position : Nat) (left : List Char) :
    tokensFrom position ('.' :: left) = .error (.unexpectedCharacter '.' position) := by
  have notBlank : Text.isBlank '.' = false := by decide
  have read : Lexeme.read position '.' left = .error (.unexpectedCharacter '.' position) := by
    have noStart : isWordStart '.' = false := by decide
    simp [Lexeme.read, noStart, Lexeme.symbol?]
  rw [tokensFrom, if_neg (by simp [notBlank])]
  split
  · rename_i failed
    rw [read] at failed
    cases failed
    rfl
  · rename_i found
    rw [read] at found
    cases found

/-- A field and the comparison for equality are two words, whatever stands behind them. -/
theorem tokenize_equal {field : String} (isField : IsWord field.toList) (value : String) :
    tokenize (field ++ " eq " ++ value) =
      (tokensFrom (byteLength field.toList + 4) value.toList).map
        ([⟨0, .word field⟩, ⟨byteLength field.toList + 1, .word "eq"⟩] ++ ·) := by
  have isOperator : IsWord "eq".toList := by decide
  have space : ∀ left : List Char, ∀ c ∈ (' ' :: left).head?, isWordChar c = false := by
    intro left c first
    cases first
    decide
  have text : (field ++ " eq " ++ value).toList =
      field.toList ++ ' ' :: ("eq".toList ++ ' ' :: value.toList) := by simp
  have bytes : byteLength "eq".toList = 2 := by decide
  rw [tokenize, text, tokensFrom_word isField (space _), tokensFrom_space,
    tokensFrom_word isOperator (space _), tokensFrom_space, bytes, Nat.zero_add]
  cases tokensFrom (byteLength field.toList + 1 + 2 + 1) value.toList <;> rfl

/-- An expression that stands without blanks around it fails as its tokens do. -/
theorem parse_of_failed {text : String} {e : FilterError} (trimmed : Text.trim text = text)
    (some : text.isEmpty = false) (failed : tokenize text = .error e) : parse text = .error e := by
  simp only [parse, trimmed, some, failed]
  rfl

theorem trim_equal {field word : String} (isField : IsWord field.toList) {c : Char}
    {cs : List Char} (whole : word.toList = c :: cs)
    (chars : ∀ d ∈ word.toList, isWordChar d = true) :
    Text.trim (field ++ " eq " ++ word) = field ++ " eq " ++ word := by
  have text : (field ++ " eq " ++ word).toList = field.toList ++ (" eq ".toList ++ word.toList) := by
    simp
  rw [Text.trim, Text.trimChars_eq_self, String.ofList_toList]
  · intro d first
    obtain ⟨f, fs, start, isStart, -⟩ := isField
    rw [text, start] at first
    cases first
    exact isBlank_of_isWordChar (isWordChar_of_start isStart)
  · intro d last
    rw [text, List.getLast?_append_of_ne_nil _ (by simp),
      List.getLast?_append_of_ne_nil _ (by simp [whole])] at last
    exact isBlank_of_isWordChar (chars d (List.mem_of_getLast? last))

/-- Comparing a field with a number reads three tokens and gives one filter with this number, unless the
number begins with its point: then it is reported that no token begins there. -/
theorem parse_number {field word : String} {x : Binary64} (isField : IsWord field.toList)
    (number : literalOfWord word = .number x) :
    let text := field ++ " eq " ++ word
    let place := byteLength field.toList + 4
    if word.toList.head? = some '.' then
      tokenize text = .error (.unexpectedCharacter '.' place) ∧
        parse text = .error (.unexpectedCharacter '.' place)
    else
      tokenize text = .ok [⟨0, .word field⟩, ⟨byteLength field.toList + 1, .word "eq"⟩,
        ⟨place, .word word⟩] ∧
      ∃ f, parse text = .ok ⟨[f], .and⟩ ∧ f.field = field ∧ f.operator = .equal ∧
        f.payload = .numbers (some x) none := by
  intro text place
  have tokens := tokenize_equal isField word
  rcases number_cases number with ⟨rest, point⟩ | ⟨noPoint, isWord⟩
  · rw [if_pos (by simp [point])]
    have failed : tokenize text = .error (.unexpectedCharacter '.' place) := by
      rw [tokens, point, tokensFrom_point]
      rfl
    have chars := Binary64.isWordChar_of_ofText? (of_literalOfWord number).2
    have some : text.isEmpty = false := by
      rw [Bool.eq_false_iff, Ne, String.isEmpty_iff, ← String.toList_eq_nil_iff]
      simp [text]
    exact ⟨failed, parse_of_failed (trim_equal isField point chars) some failed⟩
  · rw [if_neg noPoint]
    have last : tokensFrom place word.toList = .ok [⟨place, .word word⟩] := by
      have read := @tokensFrom_word word [] isWord (by simp) place
      rw [List.append_nil] at read
      rw [read, tokensFrom]
      rfl
    have read : tokenize text = .ok [⟨0, .word field⟩, ⟨byteLength field.toList + 1, .word "eq"⟩,
        ⟨place, .word word⟩] := by
      rw [tokens, last]
      rfl
    have scans := tokenize_iff.mp ⟨_, read, rfl⟩
    have phrase : IsPhrase [.word "eq", .word word] (.compare .equal (literalOfWord word)) :=
      .compare ⟨"eq", by decide, beq_self_eq_true _⟩ (.word word)
    rw [number] at phrase
    have typed : (Phrase.compare .equal (.number x)).Typed := List.mem_cons_self
    exact ⟨read, _, parse_clause scans phrase typed, rfl, rfl, rfl⟩

/-- A sign in front of the point begins a word. -/
theorem parse_number_signed :
    literalOfWord "+.5E+1" = .number (Decimal.round false ⟨5, 0⟩) ∧
      tokenize "Größe eq +.5E+1" = .ok [⟨0, .word "Größe"⟩, ⟨8, .word "eq"⟩, ⟨11, .word "+.5E+1"⟩] ∧
      ∃ f, parse "Größe eq +.5E+1" = .ok ⟨[f], .and⟩ ∧ f.field = "Größe" ∧ f.operator = .equal ∧
        f.payload = .numbers (some (Decimal.round false ⟨5, 0⟩)) none := by
  have isField : IsWord "Größe".toList := by decide
  have number : literalOfWord "+.5E+1" = .number (Decimal.round false ⟨5, 0⟩) := by decide +kernel
  have told := parse_number isField number
  have bytes : byteLength "Größe".toList = 7 := by decide
  have noPoint : "+.5E+1".toList.head? ≠ some '.' := by decide
  rw [bytes] at told
  dsimp only at told
  rw [if_neg noPoint] at told
  exact ⟨number, told⟩

/-- Among values a point may begin a number, but among tokens it may not. -/
theorem tokenize_leading_point :
    literalOfWord ".5" = .number (Decimal.round false ⟨5, -1⟩) ∧
      tokenize "Age eq .5" = .error (.unexpectedCharacter '.' 7) ∧
      parse "Age eq .5" = .error (.unexpectedCharacter '.' 7) := by
  decide +kernel

end Expression
end ODataQuery
