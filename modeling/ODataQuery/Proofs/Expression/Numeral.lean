import ODataQuery.Proofs.Expression.Listed
import ODataQuery.Proofs.Expression.Omission
import ODataQuery.Proofs.Expression.Word
import ODataQuery.Proofs.Number.Shortest

/-! Whole numbers in expressions. Digits of any length are read as the nearest double, and written
as the shortest decimal of it. -/
namespace ODataQuery

open Expression Binary64

/-- Whole numbers that survive as doubles: those up to 2⁵³, and larger ones of at most fifteen
digits before their zeros as long as they are not past all doubles. -/
def Binary64.Keeps (z : Int) : Prop :=
  z.natAbs ≤ 2 ^ 53 ∨
    (ofInt z).isFinite = true ∧ ∃ a j, z.natAbs = a * 10 ^ j ∧ a < 10 ^ 15

theorem Binary64.ofInt_small {z : Int} (small : z.natAbs ≤ 2 ^ 53) :
    ofInt z = .finite (decide (z < 0)) ⟨z.natAbs * one, representable_small small⟩ := by
  rw [ofInt, ofQuotient, roundQuotient_of_dvd (spacing_dvd small)]
  exact Decimal.ofUnits_eq_finite_iff.mpr ⟨rfl, rfl⟩

theorem Decimal.shortest_ofInt {z : Int} {m : Magnitude} {negative : Bool} (nonzero : z ≠ 0)
    (keeps : Keeps z) (rounded : ofInt z = .finite negative m) :
    (shortest m).Denotes z.natAbs := by
  have positive : 0 < z.natAbs := by omega
  rcases Nat.lt_or_ge (2 ^ 53) z.natAbs with large | small
  · obtain ⟨-, a, j, digits, fifteen⟩ := keeps.resolve_left (by omega)
    obtain ⟨-, units⟩ := ofUnits_eq_finite_iff.mp rounded
    exact shortest_fifteen large digits fifteen units.symm
  · rw [ofInt_small small] at rounded
    cases rounded
    exact shortest_small positive small rfl

theorem Literal.numberText_ofInt {z : Int} (keeps : Keeps z) :
    (ofInt z).isFinite = true ∧ numberText (ofInt z) = toString z := by
  have finite : (ofInt z).isFinite = true := by
    rcases keeps with small | ⟨finite, -⟩
    · rw [ofInt_small small]
      rfl
    · exact finite
  refine ⟨finite, ?_⟩
  by_cases zero : z = 0
  · rw [zero, ofInt_small (by decide), numberText, if_pos (by simp [Binary64.isZero])]
    rfl
  · cases rounded : ofInt z with
    | nan | infinite =>
      rw [rounded] at finite
      cases finite
    | finite negative m =>
      have denotes := Decimal.shortest_ofInt zero keeps rounded
      obtain ⟨sign, -⟩ := Decimal.ofUnits_eq_finite_iff.mp rounded
      have some : m.units ≠ 0 := by
        intro none
        rw [Decimal.shortest, if_pos none] at denotes
        obtain ⟨e, -, value⟩ := denotes
        rw [Nat.zero_mul] at value
        omega
      rw [numberText, if_neg (by simpa [Binary64.isZero] using some), Binary64.text,
        denotes.positional, ← sign, Int.toString_eq_repr, Int.repr_eq_if]
      by_cases below : z < 0
      · have magnitude : (-z).toNat = z.natAbs := by omega
        rw [if_pos (by simpa using below), if_neg (by omega), magnitude,
          Nat.repr_eq_ofList_toDigits, ← String.toList_inj]
        simp [digitsOf]
      · have magnitude : z.toNat = z.natAbs := by omega
        rw [if_neg (by simpa using below), if_pos (by omega), magnitude,
          Nat.repr_eq_ofList_toDigits, List.nil_append, digitsOf]

structure Numeral where
  sign : List Char
  digits : List Char
  signed : sign = [] ∨ sign = ['+'] ∨ sign = ['-']
  nonempty : digits ≠ []
  decimal : ∀ c ∈ digits, isDigit c = true

namespace Numeral

def text (d : Numeral) : String := String.ofList (d.sign ++ d.digits)

def negative (d : Numeral) : Bool := d.sign = ['-']

def value (d : Numeral) : Int :=
  if d.negative then -(valueOfDigits d.digits : Int) else valueOfDigits d.digits

def number (d : Numeral) : Binary64 := Decimal.round d.negative ⟨valueOfDigits d.digits, 0⟩

theorem exists_digit (d : Numeral) : ∃ c cs, d.digits = c :: cs ∧ isDigit c = true := by
  obtain ⟨c, cs, digits⟩ := List.exists_cons_of_ne_nil d.nonempty
  exact ⟨c, cs, digits, d.decimal c (by simp [digits])⟩

theorem isWordStart_of_decimal {c : Char} (h : isDigit c = true) : isWordStart c = true :=
  isWordStart_of_isDigit (Char.isDigit_iff_toNat.mpr (isDigit_iff.mp h))

theorem isWord_text (d : Numeral) : IsWord d.text.toList := by
  rw [text, String.toList_ofList]
  refine isWord_of_start (by simp [d.nonempty]) ?_
  intro c member
  rcases List.mem_append.mp member with sign | digit
  · rcases d.signed with none | plus | minus
    · rw [none] at sign
      cases sign
    · rw [plus, List.mem_singleton] at sign
      rw [sign]
      decide
    · rw [minus, List.mem_singleton] at sign
      rw [sign]
      decide
  · exact isWordStart_of_decimal (d.decimal c digit)

theorem splitSign_text (d : Numeral) : splitSign d.text.toList = (d.negative, d.digits) := by
  obtain ⟨sign, digits, signed, nonempty, decimal⟩ := d
  obtain ⟨c, cs, rfl⟩ := List.exists_cons_of_ne_nil nonempty
  obtain ⟨notMinus, notPlus, -⟩ := digit_plain (decimal c List.mem_cons_self)
  rw [text, String.toList_ofList]
  rcases signed with rfl | rfl | rfl
  · exact splitSign_of_plain notMinus notPlus cs
  · rfl
  · rfl

theorem first (d : Numeral) :
    ∃ c cs, d.text.toList = c :: cs ∧ (c = '-' ∨ c = '+' ∨ isDigit c = true) := by
  obtain ⟨c, cs, digits, digit⟩ := d.exists_digit
  rw [text, String.toList_ofList]
  rcases d.signed with none | plus | minus
  · exact ⟨c, cs, by rw [none, digits, List.nil_append], .inr (.inr digit)⟩
  · exact ⟨'+', d.digits, by rw [plus]; rfl, .inr (.inl rfl)⟩
  · exact ⟨'-', d.digits, by rw [minus]; rfl, .inl rfl⟩

theorem ofText?_text (d : Numeral) : ofText? d.text = some d.number := by
  obtain ⟨c, cs, digits, digit⟩ := d.exists_digit
  rw [ofText?_of_digit d.splitSign_text digits digit, decimalOf?_whole d.nonempty d.decimal]
  rfl

theorem literalOfWord_text (d : Numeral) : literalOfWord d.text = .number d.number := by
  obtain ⟨c, cs, first, plain⟩ := d.first
  exact literalOfWord_number first plain d.ofText?_text

/-- Up to the sign of zero a numeral is read as the double nearest to its value. -/
theorem same_number (d : Numeral) : d.number.same (ofInt d.value) = true := by
  rw [number, value]
  generalize valueOfDigits d.digits = n
  by_cases zero : n = 0
  · rw [Decimal.round, if_pos zero, zero]
    have none : (if d.negative = true then -((0 : Nat) : Int) else (0 : Nat)) = 0 := by
      split <;> rfl
    rw [none, ofInt_small (by decide)]
    simp [Binary64.zero, Binary64.same]
  · have rounded : Decimal.round d.negative ⟨n, (0 : Nat)⟩ =
        ofInt (if d.negative then -(n : Int) else n) := by
      rw [Decimal.round_whole zero (by decide), Nat.pow_zero, Nat.mul_one, ofInt]
      cases d.negative with
      | true =>
        have below : -(n : Int) < 0 := by omega
        simp only [if_true, Int.natAbs_neg, Int.natAbs_natCast, decide_eq_true below]
      | false =>
        have above : ¬ (n : Int) < 0 := by omega
        simp only [Bool.false_eq_true, if_false, Int.natAbs_natCast, decide_eq_false above]
    have number (negative : Bool) (units : Nat) : ofUnits negative units ≠ .nan := by
      unfold ofUnits
      split <;> simp
    change (Decimal.round d.negative ⟨n, (0 : Nat)⟩).same _ = true
    rw [rounded, same_self_iff]
    exact number _ _

/-- The nearest double is the one that is compared with and written. -/
theorem finite_number (d : Numeral) : d.number.isFinite = (ofInt d.value).isFinite := by
  have same : (Literal.number d.number).same (.number (ofInt d.value)) = true := d.same_number
  simpa [Literal.isBlank] using Literal.isBlank_eq_of_same same

theorem text_number (d : Numeral) :
    Literal.numberText d.number = Literal.numberText (ofInt d.value) :=
  Literal.numberText_eq_of_same d.same_number

theorem isLiteral (d : Numeral) : IsLiteral (.word d.text) (.number d.number) := by
  rw [← d.literalOfWord_text]
  exact .word d.text

theorem readsAs (d : Numeral) : ReadsAs d.text (.number d.number) :=
  readsAs_word d.isWord_text d.literalOfWord_text

end Numeral

namespace Expression

theorem Scans.last {w : String} (isWord : IsWord w.toList) : Scans w.toList [.word w] [] := by
  have spelled : Spelled (.word (String.ofList w.toList)) w.toList [] := .word isWord (by simp)
  rw [String.ofList_toList] at spelled
  simpa using Scans.token spelled .done

theorem scans_comparison {field w v : String} (isField : IsWord field.toList)
    (isWord : IsWord w.toList) (isValue : IsWord v.toList) :
    Scans (field ++ " " ++ w ++ " " ++ v).toList [.word field, .word w, .word v] [] := by
  have value := (Scans.last isValue).space
  have operator := (Scans.word isWord (by decide) value).space
  have whole := Scans.word isField (by decide) operator
  simpa using whole

theorem compile_filter (c : Compiler) (f : Filter) (j : Combinator) :
    c.compile ⟨numbered [f], j⟩ = (c.render? f).getD "" := by
  have id : numbered [f] = [{ f with id := Guid.ofNat 1 }] := rfl
  have same : Fragment.ofFilter? c.now { f with id := Guid.ofNat 1 } = Fragment.ofFilter? c.now f :=
    rfl
  have path : c.path { f with id := Guid.ofNat 1 } = c.path f := rfl
  rw [Compiler.compile, Compiler.compileList, Compiler.clause, id, List.foldl_cons, List.foldl_nil,
    Compiler.addFilter, same, path, Compiler.render?]
  cases Fragment.ofFilter? c.now f <;> rfl

def numberOperators : List Operator :=
  [.equal, .notEqual, .greater, .greaterOrEqual, .less, .lessOrEqual]

theorem isOperator_keyword {o : Operator} (ordered : o ∈ numberOperators) :
    IsOperator (.word o.keyword) o := by
  refine ⟨o.keyword, ?_, ?_⟩
  · revert ordered
    cases o <;> decide
  · exact beq_self_eq_true _

theorem write_number {o : Operator} (ordered : o ∈ numberOperators) (field : String)
    (x : Binary64) :
    o.write [field, (Literal.number x).render] =
      field ++ " " ++ o.keyword ++ " " ++ Literal.numberText x := by
  have atomic : o.isAtomic = true ∧ o.isCall = false := by
    revert ordered
    cases o <;> decide
  rw [← String.toList_inj, Operator.write_atomic atomic.1, Atom.source, atomic.2]
  simp [Token.source, Literal.token, Literal.spelling, Literal.wording]

theorem render?_number {field : String} {o : Operator} (ordered : o ∈ numberOperators)
    (x : Binary64) (now : Instant) :
    Compiler.render? ⟨now, none⟩ (Written.filter ⟨field, .compare o (.number x)⟩) =
      if x.isFinite then some (field ++ " " ++ o.keyword ++ " " ++ Literal.numberText x)
      else none := by
  have typed : (Phrase.compare o (.number x)).Typed := ordered
  have path : Compiler.path ⟨now, none⟩ (Written.filter ⟨field, .compare o (.number x)⟩) = field :=
    path_plain (plain_filter typed)
  have fragment : Fragment.ofFilter? now (Written.filter ⟨field, .compare o (.number x)⟩) =
      if x.isFinite then some (.single o (.number x)) else none := by
    have operator := operator_compare (o := o) (v := .number x) (by simp)
    have plain : o.isNullary = false ∧ o ≠ .between := by
      revert ordered
      cases o <;> decide
    cases finite : x.isFinite <;>
      simp [Fragment.ofFilter?, Filter.isInert, Written.filter, Written.operator, Written.payload,
        Phrase.payload, operator, plain, Filter.hasUsable, Fragment.finite?, finite]
  rw [Compiler.render?, path, fragment]
  cases x.isFinite with
  | true => exact congrArg some (write_number ordered field x)
  | false => rfl

def listText (field : String) (excluded : Bool) (d : Numeral) (ds : List Numeral) : String :=
  field ++ (if excluded then " not in (" else " in (") ++
    ", ".intercalate ((d :: ds).map Numeral.text) ++ ")"

theorem written_list {field : String} (isField : IsWord field.toList) (excluded : Bool)
    (d : Numeral) (ds : List Numeral) :
    ∃ ts, Scans (listText field excluded d ds).toList (.word field :: ts) [] ∧
      IsPhrase ts (.among excluded ((d :: ds).map fun d => .number d.number)) := by
  have read : ∀ e ∈ d :: ds, ReadsAs e.text (.number e.number) := fun e _ => e.readsAs
  exact scans_amongText isField excluded (readsAs_map read) (by simp)

theorem mem_atoms_list {field : String} {excluded : Bool} {ds : List Numeral} {now : Instant}
    {a : Atom} :
    a ∈ Written.atoms now ⟨field, .among excluded (ds.map fun d => .number d.number)⟩ ↔
      ∃ d ∈ ds, (ofInt d.value).isFinite = true ∧ a =
        ⟨if excluded then .notEqual else .equal, field,
          .word (Literal.numberText (ofInt d.value))⟩ := by
  rw [mem_atoms]
  simp only [Phrase.comparisons, List.map_map, List.mem_map, Function.comp_apply,
    exists_exists_and_eq_and]
  refine exists_congr fun d => and_congr_right fun _ => ?_
  have token : (Literal.number d.number).token =
      .word (Literal.numberText (ofInt d.value)) := congrArg Token.word d.text_number
  rw [Literal.isBlank, Bool.not_eq_false', d.finite_number, Atom.comparing, token]
  cases excluded <;> rfl

/-- The numbers of a list that are compared with are those that are not past all doubles. -/
theorem mentions_list {field : String} (isField : IsWord field.toList) (excluded : Bool)
    (d : Numeral) (ds : List Numeral) (now : Instant) :
    ∃ collection whole, parse (listText field excluded d ds) = .ok collection ∧
      Clause.Reads (Compiler.compile ⟨now, none⟩ collection) whole ∧
      ∀ a, (∃ said ∈ whole, said.Mentions a) ↔
        ∃ e ∈ d :: ds, (ofInt e.value).isFinite = true ∧
          a = ⟨if excluded then .notEqual else .equal, field,
            .word (Literal.numberText (ofInt e.value))⟩ := by
  obtain ⟨ts, scans, phrase⟩ := written_list isField excluded d ds
  have parsed := parse_clause scans phrase trivial
  generalize listed : (d :: ds).map (fun d => Literal.number d.number) = values at phrase parsed
  have typed : ∀ w ∈ [Written.mk field (.among excluded values)], w.phrase.Typed := by
    simp [Phrase.Typed]
  have written : ∀ w ∈ [Written.mk field (.among excluded values)], ∃ used, IsWritten used w := by
    simpa using ⟨_, .clause phrase⟩
  have words : ∀ w ∈ [Written.mk field (.among excluded values)], IsWord w.field.toList := by
    simpa using isField
  obtain ⟨whole, reads, mentions⟩ := mentions_collect (j := .and) typed written words rfl now
  refine ⟨_, whole, parsed, reads, fun a => ?_⟩
  subst listed
  rw [mentions a]
  simp only [List.mem_singleton, exists_eq_left, mem_atoms_list]

/-- Comparisons with whole numbers, alone or in a list, are accepted at any length. What is compared
with is the shortest decimal of the nearest double, and that is the number itself when a double
keeps it. -/
theorem compile_numerals {field : String} (isField : IsWord field.toList) (now : Instant) :
    (∀ o ∈ numberOperators, ∀ d : Numeral, ∃ collection,
      parse (field ++ " " ++ o.keyword ++ " " ++ d.text) = .ok collection ∧
      Compiler.compile ⟨now, none⟩ collection =
        if (ofInt d.value).isFinite then
          field ++ " " ++ o.keyword ++ " " ++ Literal.numberText (ofInt d.value)
        else "") ∧
    (∀ excluded d ds, ∃ collection whole, parse (listText field excluded d ds) = .ok collection ∧
      Clause.Reads (Compiler.compile ⟨now, none⟩ collection) whole ∧
      ∀ a, (∃ said ∈ whole, said.Mentions a) ↔
        ∃ e ∈ d :: ds, (ofInt e.value).isFinite = true ∧
          a = ⟨if excluded then .notEqual else .equal, field,
            .word (Literal.numberText (ofInt e.value))⟩) ∧
    ∀ d : Numeral, Keeps d.value → (ofInt d.value).isFinite = true ∧
      Literal.numberText (ofInt d.value) = toString d.value := by
  refine ⟨?_, fun excluded d ds => mentions_list isField excluded d ds now,
    fun d keeps => Literal.numberText_ofInt keeps⟩
  intro o ordered d
  have scans := scans_comparison isField o.keyword_isWord d.isWord_text
  have typed : (Phrase.compare o (.number d.number)).Typed := ordered
  have parsed := parse_clause scans (.compare (isOperator_keyword ordered) d.isLiteral) typed
  refine ⟨_, parsed, ?_⟩
  rw [compile_filter, render?_number ordered, d.finite_number, d.text_number]
  cases (ofInt d.value).isFinite <;> rfl

def leastKept : Numeral :=
  ⟨['-'], "9007199254740992".toList, by decide, by decide, List.all_eq_true.mp (by decide)⟩

theorem compile_numerals_least :
    ∃ collection, parse "Id le -9007199254740992" = .ok collection ∧
      Compiler.compile ⟨⟨0, 0, by decide⟩, none⟩ collection = "Id le -9007199254740992" := by
  have isField : IsWord "Id".toList := by decide
  obtain ⟨compared, -, kept⟩ := compile_numerals isField ⟨0, 0, by decide⟩
  obtain ⟨collection, parsed, compiled⟩ := compared .lessOrEqual (by decide) leastKept
  obtain ⟨finite, text⟩ := kept leastKept (.inl (by decide))
  rw [if_pos finite, text] at compiled
  exact ⟨collection, parsed, compiled⟩

/-- Just past 2⁵³ an accepted number is compared with as another one. -/
theorem compile_rounded :
    ∃ collection, parse "Id eq 9007199254740993" = .ok collection ∧
      Compiler.compile ⟨⟨0, 0, by decide⟩, none⟩ collection = "Id eq 9007199254740992" ∧
      ∀ d : Numeral, d.value = 9007199254740993 →
        Compiler.compile ⟨⟨0, 0, by decide⟩, none⟩ collection ≠ "Id eq " ++ d.text := by
  have compiled : Compiler.compile ⟨⟨0, 0, by decide⟩, none⟩
      ⟨numbered [Written.filter ⟨"Id", .compare .equal (literalOfWord "9007199254740993")⟩], .and⟩ =
        "Id eq 9007199254740992" := by decide +kernel
  refine ⟨_, by decide +kernel, compiled, ?_⟩
  intro d value same
  rw [compiled] at same
  have text : d.text.toList = "9007199254740992".toList := by
    have chars : "Id eq ".toList ++ d.text.toList =
        "Id eq ".toList ++ "9007199254740992".toList := by
      rw [← String.toList_append, ← same]
      rfl
    exact List.append_cancel_left chars
  have read := d.splitSign_text
  rw [text] at read
  obtain ⟨sign, digits⟩ := Prod.mk.inj read
  rw [Numeral.value, ← sign, ← digits] at value
  exact absurd value (by decide)

end Expression

end ODataQuery
