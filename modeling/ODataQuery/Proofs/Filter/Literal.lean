import Mathlib.Tactic.IntervalCases
import ODataQuery.Proofs.Clause.Condition
import ODataQuery.Proofs.Guid
import ODataQuery.Proofs.Number.Roundtrip
import ODataQuery.Proofs.Time.Seconds

/-! Literals in clauses: each is written as one token that denotes it. A text is one quoted token, and
every other literal is a word. -/
namespace ODataQuery

open Expression (Token IsWord isWordStart isWordChar isWordChar_of_start)

namespace Expression

theorem isWordStart_of_isDigit {c : Char} (h : c.isDigit = true) : isWordStart c = true := by
  have low : 48 ≤ c.toNat := (Char.isDigit_iff_toNat.mp h).1
  have high : c.toNat ≤ 57 := (Char.isDigit_iff_toNat.mp h).2
  rw [← Char.ofNat_toNat c]
  interval_cases c.toNat <;> decide

theorem isWord_of_start {w : List Char} (nonempty : w ≠ [])
    (start : ∀ c ∈ w, isWordStart c = true) : IsWord w := by
  obtain ⟨c, cs, rfl⟩ := List.exists_cons_of_ne_nil nonempty
  refine ⟨c, cs, rfl, start c (by simp), ?_⟩
  intro d member
  exact isWordChar_of_start (start d (List.mem_cons_of_mem c member))

theorem IsWord.append {w more : List Char} (h : IsWord w)
    (inside : ∀ c ∈ more, isWordChar c = true) : IsWord (w ++ more) := by
  obtain ⟨c, cs, rfl, start, rest⟩ := h
  refine ⟨c, cs ++ more, rfl, start, ?_⟩
  intro d member
  rcases List.mem_append.mp member with member | member
  · exact rest d member
  · exact inside d member

theorem IsWord.cons {c : Char} {w : List Char} (start : isWordStart c = true) (h : IsWord w) :
    IsWord (c :: w) :=
  ⟨c, w, rfl, start, h.all⟩

end Expression

open Expression

theorem isWordStart_of_mem_digitsOf {n : Nat} {c : Char} (h : c ∈ digitsOf n) :
    isWordStart c = true :=
  isWordStart_of_isDigit (Nat.isDigit_of_mem_toDigits (by decide) (by decide) h)

theorem isWord_digitsOf (n : Nat) : IsWord (digitsOf n) :=
  isWord_of_start Nat.toDigits_ne_nil fun _ => isWordStart_of_mem_digitsOf

theorem isWordChar_of_mem_replicate {n : Nat} {c : Char} (h : c ∈ List.replicate n '0') :
    isWordChar c = true := by
  obtain ⟨-, rfl⟩ := List.mem_replicate.mp h
  decide

theorem Decimal.isWord_positional (d : Decimal) : IsWord d.positional := by
  have digits := isWord_digitsOf d.digits
  unfold Decimal.positional
  dsimp only
  split
  · exact ⟨_, _, rfl, by decide, by simp⟩
  split
  · exact digits.append fun c => isWordChar_of_mem_replicate
  split
  · rename_i places
    have front : IsWord ((digitsOf d.digits).take ((digitsOf d.digits).length -
        d.exponent.natAbs)) := by
      refine isWord_of_start ?_ fun c member =>
        isWordStart_of_mem_digitsOf (List.mem_of_mem_take member)
      intro empty
      rcases List.take_eq_nil_iff.mp empty with none | empty
      · omega
      · exact Nat.toDigits_ne_nil empty
    refine front.append ?_
    rw [List.forall_mem_cons]
    exact ⟨by decide, fun c member => digits.all c (List.mem_of_mem_drop member)⟩
  · refine ⟨_, _, rfl, by decide, ?_⟩
    rw [List.forall_mem_cons, List.forall_mem_append]
    exact ⟨by decide, fun c => isWordChar_of_mem_replicate, digits.all⟩

theorem Binary64.isWord_text (x : Binary64) : IsWord x.text.toList := by
  cases x with
  | nan => decide
  | infinite negative => cases negative <;> decide
  | finite negative m =>
    have digits := (Decimal.shortest m).isWord_positional
    cases negative with
    | true => simpa [text] using digits.cons (c := '-') (by decide)
    | false => simpa [text] using digits

/-- The number without the sign of a zero. -/
def Binary64.unsignedZero (x : Binary64) : Binary64 := if x.isZero then zero false else x

theorem Magnitude.eq_of_units {m n : Magnitude} (units : m.units = n.units) : m = n := by
  cases m
  cases n
  cases units
  rfl

theorem Binary64.same_finite_iff {s t : Bool} {m n : Magnitude} :
    (finite s m).same (finite t n) = true ↔ m.units = n.units ∧ (s = t ∨ m.units = 0) := by
  simp [same]

theorem Binary64.same_infinite_iff {s t : Bool} :
    (infinite s).same (infinite t) = true ↔ s = t := by
  simp [same]

namespace Instant

theorem isWordStart_of_mem_padded {width n : Nat} {c : Char} (h : c ∈ padded width n) :
    isWordStart c = true := by
  rcases List.mem_append.mp h with zero | digit
  · obtain ⟨-, rfl⟩ := List.mem_replicate.mp zero
    decide
  · exact isWordStart_of_mem_digitsOf digit

theorem isWord_padded (width n : Nat) : IsWord (padded width n) := by
  refine isWord_of_start ?_ fun c => isWordStart_of_mem_padded
  simp [padded, digitsOf, Nat.toDigits_ne_nil]

theorem isWord_yearText (year : Int) : IsWord (yearText year) := by
  unfold yearText
  split
  · exact isWord_padded 4 year.natAbs
  · exact (isWord_padded 4 year.natAbs).cons (by split <;> decide)

theorem isWord_secondsText (t : Instant) : IsWord t.secondsText.toList := by
  have digits (width n : Nat) := (isWord_padded width n).all
  rw [secondsText, wholeText, String.toList_ofList, List.append_assoc]
  refine (isWord_yearText _).append ?_
  simp only [List.cons_append, List.append_assoc, List.forall_mem_cons, List.forall_mem_append]
  refine ⟨by decide, digits 2 _, by decide, digits 2 _, by decide, digits 2 _, by decide,
    digits 2 _, by decide, digits 2 _, by decide, by simp⟩

end Instant

theorem Guid.isWord_text (g : Guid) : IsWord g.text.toList := by
  have digit : ∀ d : Fin 16, isWordStart (hexDigit d) = true := by decide
  obtain ⟨c, cs, first, -⟩ := g.exists_first_text
  refine isWord_of_start (by simp [first]) fun c member => ?_
  rw [toList_text] at member
  rcases mem_hyphenated member with rfl | hex
  · decide
  · obtain ⟨d, -, rfl⟩ := List.mem_map.mp hex
    exact digit d

namespace Literal

/-- What a token says in a clause: a text is quoted, and a word is read as the value that it stands
for. Instants are told to the second, and only finite numbers have a word that tells them. -/
def Denotes (t : Token) : Literal → Prop
  | text s => t = .quoted s
  | number x => ∃ w, t = .word w ∧ (x.isFinite = true → Binary64.ofText? w = some x.unsignedZero)
  | boolean b => t = .word (if b then "true" else "false")
  | instant moment => ∃ w, t = .word w ∧ Time.relaxed? w = some moment.wholeSecond
  | guid g => ∃ w, t = .word w ∧ Guid.ofText? w = some g
  | null => t = .word "null"

theorem ofText?_numberText {x : Binary64} (finite : x.isFinite = true) :
    Binary64.ofText? (numberText x) = some x.unsignedZero := by
  cases x with
  | nan | infinite => cases finite
  | finite negative m =>
    unfold numberText Binary64.unsignedZero
    cases zero : (Binary64.finite negative m).isZero with
    | true =>
      rw [if_pos rfl, if_pos rfl]
      decide
    | false =>
      rw [if_neg Bool.false_ne_true, if_neg Bool.false_ne_true]
      exact Binary64.ofText?_text (beq_eq_false_iff_ne.mp zero) negative

def wording : Literal → Token
  | text s => .quoted s
  | number x => .word (numberText x)
  | boolean b => .word (if b then "true" else "false")
  | instant t => .word t.secondsText
  | guid g => .word g.text
  | null => .word "null"

theorem denotes_wording (v : Literal) : v.Denotes v.wording := by
  cases v with
  | number x => exact ⟨_, rfl, ofText?_numberText⟩
  | instant t => exact ⟨_, rfl, t.relaxed?_secondsText⟩
  | guid g => exact ⟨_, rfl, g.ofText?_text⟩
  | text | boolean | null => rfl

/-- A way to write a literal as one token. -/
structure Spelling (v : Literal) where
  token : Token
  denotes : v.Denotes token

def spelling (v : Literal) : v.Spelling := ⟨v.wording, v.denotes_wording⟩

/-- The token of a literal in a clause. -/
def token (v : Literal) : Token := v.spelling.token

theorem source_token (v : Literal) : v.token.source = v.render.toList := by
  cases v <;> rfl

theorem isOperand_token (v : Literal) : v.token.IsOperand := by
  cases v with
  | text s => trivial
  | number x =>
    change IsWord (numberText x).toList
    unfold numberText
    split
    · decide
    · exact x.isWord_text
  | boolean b =>
    change IsWord (if b then "true" else "false").toList
    cases b <;> decide
  | instant t => exact t.isWord_secondsText
  | guid g => exact g.isWord_text
  | null =>
    change IsWord "null".toList
    decide

/-- Equal numbers are written alike: the two zeros are the only ones that differ. -/
theorem numberText_eq_of_same {x y : Binary64} (h : x.same y = true) :
    numberText x = numberText y := by
  cases x <;> cases y <;> try cases h
  case infinite.infinite => rw [Binary64.same_infinite_iff.mp h]
  case finite.finite s m t n =>
    obtain ⟨units, sign | zero⟩ := Binary64.same_finite_iff.mp h
    · rw [Magnitude.eq_of_units units, sign]
    · simp [numberText, Binary64.isZero, ← units, zero]

theorem token_eq_of_same {v w : Literal} (h : v.same w = true) : v.token = w.token := by
  cases v <;> cases w <;> simp only [same, decide_eq_true_eq, Bool.false_eq_true] at h
  case number.number x y => exact congrArg Token.word (numberText_eq_of_same h)
  all_goals first | rw [h] | rfl

end Literal

end ODataQuery
