import Mathlib.Tactic.IntervalCases
import ODataQuery.Expression.Token
import ODataQuery.Filter.Literal
import ODataQuery.Proofs.Text.Parts

/-! Scanning as a relation between a text, tokens at its front and the characters behind them. The
rest stays in view, so that joining two scans cannot split a word or a quoted text. -/
namespace ODataQuery.Expression

def IsWord (w : List Char) : Prop :=
  ∃ c cs, w = c :: cs ∧ isWordStart c = true ∧ ∀ d ∈ cs, isWordChar d = true

theorem isWord_cons_iff {c : Char} {cs : List Char} :
    IsWord (c :: cs) ↔ isWordStart c = true ∧ ∀ d ∈ cs, isWordChar d = true := by
  constructor
  · rintro ⟨_, _, same, word⟩
    cases same
    exact word
  · exact fun word => ⟨c, cs, rfl, word⟩

instance : (w : List Char) → Decidable (IsWord w)
  | [] => .isFalse (by rintro ⟨_, _, same, -⟩; cases same)
  | c :: cs => decidable_of_iff (isWordStart c = true ∧ cs.all isWordChar = true) (by
      rw [isWord_cons_iff, List.all_eq_true])

theorem isWordChar_of_start {c : Char} (h : isWordStart c = true) : isWordChar c = true := by
  simp [isWordChar, h]

theorem IsWord.all {w : List Char} (h : IsWord w) : ∀ c ∈ w, isWordChar c = true := by
  obtain ⟨c, cs, rfl, start, rest⟩ := h
  intro d hd
  rcases List.mem_cons.mp hd with rfl | hd
  · exact isWordChar_of_start start
  · exact rest d hd

/-- No blank belongs to a word. The blanks are few, so each is looked up. -/
theorem isWordChar_of_isBlank {c : Char} (h : Text.isBlank c = true) : isWordChar c = false := by
  obtain ⟨r, member, inside⟩ := Text.Run.anyContains_sound h
  obtain ⟨low, high, -⟩ := Text.Run.contains_iff.mp inside
  rw [← Char.ofNat_toNat c]
  simp only [Text.blankRuns, List.mem_cons, List.not_mem_nil, or_false] at member
  rcases member with rfl | rfl | rfl | rfl | rfl | rfl | rfl | rfl | rfl | rfl <;>
    dsimp only at low high <;> interval_cases c.toNat <;> decide +kernel

theorem isBlank_of_isWordChar {c : Char} (h : isWordChar c = true) : Text.isBlank c = false := by
  cases blank : Text.isBlank c with
  | false => rfl
  | true => rw [isWordChar_of_isBlank blank] at h; contradiction

namespace Lexeme

/-- A text in single quotes: its quotes are doubled, and no quote follows the closing one. -/
theorem singleQuoted?_iff {cs value source left : List Char} :
    singleQuoted? cs = some (value, source, left) ↔
      source = Literal.doubleQuotes value ++ ['\''] ∧ cs = source ++ left ∧
        left.head? ≠ some '\'' := by
  constructor
  · intro h
    fun_induction singleQuoted? cs generalizing value source with
    | case1 => cases h
    | case2 rest ih =>
      obtain ⟨⟨v, s, l⟩, read, equal⟩ := Option.map_eq_some_iff.mp h
      cases equal
      obtain ⟨rfl, rfl, next⟩ := ih read
      exact ⟨by simp [Literal.doubleQuotes], by simp, next⟩
    | case3 rest noSecond =>
      cases h
      refine ⟨rfl, rfl, ?_⟩
      intro head
      obtain ⟨tail, rfl⟩ := List.head?_eq_some_iff.mp head
      exact noSecond tail rfl rfl
    | case4 c rest _ other ih =>
      obtain ⟨⟨v, s, l⟩, read, equal⟩ := Option.map_eq_some_iff.mp h
      cases equal
      obtain ⟨rfl, rfl, next⟩ := ih read
      exact ⟨by simp [Literal.doubleQuotes, other], by simp, next⟩
  · rintro ⟨rfl, rfl, next⟩
    induction value with
    | nil =>
      cases left with
      | nil => rfl
      | cons d left =>
        have other : d ≠ '\'' := fun same => next (by simp [same])
        simp [Literal.doubleQuotes, singleQuoted?, other]
    | cons c value ih =>
      by_cases quote : c = '\''
      · subst quote
        simpa [Literal.doubleQuotes, singleQuoted?] using ih
      · simpa [Literal.doubleQuotes, singleQuoted?, quote] using ih

/-- Nothing behind the closing double quote has a part in what stands before it. -/
theorem doubleQuoted?_again {cs value source left : List Char}
    (h : doubleQuoted? cs = some (value, source, left)) (other : List Char) :
    doubleQuoted? (source ++ other) = some (value, source, other) := by
  fun_induction doubleQuoted? cs generalizing value source with
  | case1 => cases h
  | case2 => cases h
  | case3 c rest ih =>
    obtain ⟨⟨v, s, l⟩, read, equal⟩ := Option.map_eq_some_iff.mp h
    cases equal
    simp [doubleQuoted?, ih read]
  | case4 rest =>
    cases h
    simp [doubleQuoted?]
  | case5 c rest _ plain quote ih =>
    obtain ⟨⟨v, s, l⟩, read, equal⟩ := Option.map_eq_some_iff.mp h
    cases equal
    have notEscape : c ≠ '\\' := by
      rintro rfl
      cases rest with
      | nil => cases read
      | cons d rest => exact plain d rest rfl rfl
    simp [doubleQuoted?, notEscape, quote, ih read]

end Lexeme

theorem Lexeme.doubleQuoted?_last {cs value source left : List Char}
    (h : doubleQuoted? cs = some (value, source, left)) : source.getLast? = some '"' := by
  fun_induction doubleQuoted? cs generalizing value source with
  | case1 => cases h
  | case2 => cases h
  | case3 c rest ih =>
    obtain ⟨⟨v, s, l⟩, read, equal⟩ := Option.map_eq_some_iff.mp h
    cases equal
    simp [List.getLast?_cons, ih read]
  | case4 rest =>
    cases h
    rfl
  | case5 c rest _ _ _ ih =>
    obtain ⟨⟨v, s, l⟩, read, equal⟩ := Option.map_eq_some_iff.mp h
    cases equal
    simp [List.getLast?_cons, ih read]

/-- Whether a symbol is complete in front of these characters: none of them makes it longer. -/
def Symbol.EndsBefore (left : List Char) : Symbol → Prop
  | .equal | .greater => left.head? ≠ some '='
  | .less => left.head? ≠ some '=' ∧ left.head? ≠ some '>'
  | _ => True

/-- How tokens are spelled: a token, its source, and the characters behind it, of which the first
one says that the token ends there. -/
inductive Spelled : Token → List Char → List Char → Prop
  | openParen : Spelled .openParen ['('] left
  | closeParen : Spelled .closeParen [')'] left
  | comma : Spelled .comma [','] left
  | single : left.head? ≠ some '\'' →
      Spelled (.quoted (String.ofList value)) ('\'' :: (Literal.doubleQuotes value ++ ['\''])) left
  | double : Lexeme.doubleQuoted? source = some (value, source, []) →
      Spelled (.quoted (String.ofList value)) ('"' :: source) left
  | word : IsWord w → (∀ c ∈ left.head?, isWordChar c = false) →
      Spelled (.word (String.ofList w)) w left
  | symbol : s.EndsBefore left → Spelled (.symbol s) s.text.toList left

private theorem head?_ne {c : Char} {cs : List Char} (h : ∀ more, cs = c :: more → False) :
    cs.head? ≠ some c := by
  intro head
  obtain ⟨more, same⟩ := List.head?_eq_some_iff.mp head
  exact h more same

namespace Lexeme

theorem symbol?_spelled {c : Char} {cs : List Char} {l : Lexeme} (h : symbol? c cs = some l) :
    Spelled l.token l.source l.rest ∧ c :: cs = l.source ++ l.rest := by
  unfold symbol? at h
  split at h <;> cases h
  · exact ⟨.symbol (s := .doubleEqual) trivial, rfl⟩
  · rename_i single
    exact ⟨.symbol (s := .equal) (head?_ne single), rfl⟩
  · exact ⟨.symbol (s := .notEqual) trivial, rfl⟩
  · exact ⟨.symbol (s := .angles) trivial, rfl⟩
  · exact ⟨.symbol (s := .lessOrEqual) trivial, rfl⟩
  · rename_i noAngle noEqual
    exact ⟨.symbol (s := .less) ⟨head?_ne noEqual, head?_ne noAngle⟩, rfl⟩
  · exact ⟨.symbol (s := .greaterOrEqual) trivial, rfl⟩
  · rename_i single
    exact ⟨.symbol (s := .greater) (head?_ne single), rfl⟩

theorem symbol?_complete {s : Symbol} {c : Char} {cs left : List Char} (ends : s.EndsBefore left)
    (text : c :: cs = s.text.toList ++ left) :
    symbol? c cs = some ⟨.symbol s, s.text.toList, left⟩ := by
  cases s <;> simp only [Symbol.text, String.reduceToList, List.cons_append, List.nil_append,
      List.cons.injEq] at text <;> obtain ⟨rfl, rfl⟩ := text
  case equal | less | greater =>
    cases cs <;> simp_all [symbol?, Symbol.EndsBefore, Symbol.text]
  all_goals rfl

end Lexeme

theorem isWordStart_plain {c : Char} (h : isWordStart c = true) :
    c ≠ '(' ∧ c ≠ ')' ∧ c ≠ ',' ∧ c ≠ '\'' ∧ c ≠ '"' := by
  refine ⟨?_, ?_, ?_, ?_, ?_⟩ <;> (rintro rfl; exact absurd h (by decide))

theorem Lexeme.read_spelled {position : Nat} {c : Char} {cs : List Char} {l : Lexeme}
    (h : read position c cs = .ok l) :
    Spelled l.token l.source l.rest ∧ c :: cs = l.source ++ l.rest := by
  unfold read at h
  repeat' split at h
  all_goals first
    | (cases h; done)
    | (simp only [Except.ok.injEq] at h; subst h)
  · simp_all [Spelled.openParen]
  · simp_all [Spelled.closeParen]
  · simp_all [Spelled.comma]
  · rename_i quote _ parts quoted
    obtain ⟨value, source, left⟩ := parts
    obtain ⟨rfl, rfl, apart⟩ := singleQuoted?_iff.mp quoted
    subst quote
    exact ⟨.single apart, rfl⟩
  · rename_i quote _ parts quoted
    obtain ⟨value, source, left⟩ := parts
    subst quote
    have alone := doubleQuoted?_again quoted []
    rw [List.append_nil] at alone
    exact ⟨.double alone, by simp [ofQuoted, doubleQuoted?_source quoted]⟩
  · rename_i start
    have apart := List.head?_dropWhile_not isWordChar cs
    refine ⟨.word ⟨c, _, rfl, start, fun d hd => List.mem_takeWhile_imp hd⟩ ?_, by simp⟩
    intro d hd
    rw [Option.mem_def.mp hd] at apart
    simpa using apart
  · rename_i found
    exact symbol?_spelled found

theorem Spelled.read {t : Token} {source left : List Char} (h : Spelled t source left)
    {c : Char} {cs : List Char} (text : c :: cs = source ++ left) (position : Nat) :
    Lexeme.read position c cs = .ok ⟨t, source, left⟩ := by
  cases h with
  | openParen => cases text; rfl
  | closeParen => cases text; rfl
  | comma => cases text; rfl
  | @single value _ apart =>
    cases text
    have quoted : Lexeme.singleQuoted? (Literal.doubleQuotes value ++ ['\''] ++ left) = _ :=
      Lexeme.singleQuoted?_iff.mpr ⟨rfl, rfl, apart⟩
    simp only [List.append_eq, Lexeme.read, quoted]
    rfl
  | double read =>
    cases text
    simp [Lexeme.read, Lexeme.doubleQuoted?_again read left, Lexeme.ofQuoted]
  | word isWord apart =>
    obtain ⟨d, ds, rfl, start, inside⟩ := isWord
    cases text
    have plain := isWordStart_plain start
    have run := Text.longest_run inside apart
    simp [Lexeme.read, plain, start, run]
  | @symbol s _ ends =>
    have found := Lexeme.symbol?_complete ends text
    have first : c = '=' ∨ c = '!' ∨ c = '<' ∨ c = '>' := by
      cases s <;> simp_all [Symbol.text]
    have noStart : isWordStart c = false := by
      rcases first with rfl | rfl | rfl | rfl <;> decide
    rcases first with rfl | rfl | rfl | rfl <;> simp [Lexeme.read, found, noStart]

namespace Spelled

/-- A token depends on the next character alone, and neither a blank nor the end of the text makes
it longer. -/
theorem before {t : Token} {source left other : List Char} (h : Spelled t source left)
    (next : ∀ d ∈ other.head?, left.head? = some d ∨ Text.isBlank d = true) :
    Spelled t source other := by
  have apartFrom {c : Char} (notBlank : Text.isBlank c = false) (apart : left.head? ≠ some c) :
      other.head? ≠ some c := by
    intro head
    rcases next c head with same | blank
    · exact apart same
    · rw [notBlank] at blank
      cases blank
  cases h with
  | openParen => exact .openParen
  | closeParen => exact .closeParen
  | comma => exact .comma
  | single apart => exact .single (apartFrom (by decide) apart)
  | double read => exact .double read
  | word isWord apart =>
    refine .word isWord fun d head => ?_
    rcases next d head with same | blank
    · exact apart d same
    · exact isWordChar_of_isBlank blank
  | @symbol s _ ends =>
    refine .symbol ?_
    cases s with
    | equal | greater => exact apartFrom (by decide) ends
    | less => exact ⟨apartFrom (by decide) ends.1, apartFrom (by decide) ends.2⟩
    | doubleEqual | notEqual | angles | lessOrEqual | greaterOrEqual => trivial

theorem symbol_notBlank {s : Symbol} : ∀ c ∈ s.text.toList, Text.isBlank c = false := by
  have none : s.text.toList.all (fun c => !Text.isBlank c) = true := by cases s <;> decide
  simpa [List.all_eq_true] using none

theorem ne_nil {t : Token} {source left : List Char} (h : Spelled t source left) :
    source ≠ [] := by
  cases h with
  | openParen | closeParen | comma | single | double => simp
  | word isWord =>
    obtain ⟨c, cs, rfl, -⟩ := isWord
    simp
  | @symbol s _ _ => cases s <;> decide

theorem first {t : Token} {source left : List Char} (h : Spelled t source left) :
    ∀ c ∈ source.head?, Text.isBlank c = false := by
  cases h with
  | openParen | closeParen | comma | single | double => simp; decide
  | word isWord =>
    obtain ⟨c, cs, rfl, start, -⟩ := isWord
    simpa using isBlank_of_isWordChar (isWordChar_of_start start)
  | symbol => exact fun c head => symbol_notBlank c (List.mem_of_head? head)

theorem last {t : Token} {source left : List Char} (h : Spelled t source left) :
    ∀ c ∈ source.getLast?, Text.isBlank c = false := by
  cases h with
  | openParen | closeParen | comma => simp; decide
  | single =>
    rw [← List.cons_append, List.getLast?_append]
    simp; decide
  | double read =>
    rw [List.getLast?_cons, Lexeme.doubleQuoted?_last read]
    simp; decide
  | word isWord =>
    intro c hc
    exact isBlank_of_isWordChar (isWord.all c (List.mem_of_getLast? hc))
  | symbol => exact fun c last => symbol_notBlank c (List.mem_of_getLast? last)

end Spelled

/-- Reading these tokens, and blanks around them, from the front of a text leaves the rest. -/
inductive Scans : List Char → List Token → List Char → Prop
  | done : Scans rest [] rest
  | blank : Text.isBlank c = true → Scans cs ts rest → Scans (c :: cs) ts rest
  | token : Spelled t source left → Scans left ts rest → Scans (source ++ left) (t :: ts) rest

theorem Scans.append {cs middle rest : List Char} {ts us : List Token} (front : Scans cs ts middle)
    (back : Scans middle us rest) : Scans cs (ts ++ us) rest := by
  induction front with
  | done => exact back
  | blank isBlank _ ih => exact .blank isBlank (ih back)
  | token spelled _ ih => exact .token spelled (ih back)

theorem Scans.split {cs rest : List Char} {ts us : List Token} (h : Scans cs (ts ++ us) rest) :
    ∃ middle, Scans cs ts middle ∧ Scans middle us rest := by
  generalize whole : ts ++ us = all at h
  induction h generalizing ts with
  | done =>
    obtain ⟨rfl, rfl⟩ := List.append_eq_nil_iff.mp whole
    exact ⟨_, .done, .done⟩
  | blank isBlank _ ih =>
    obtain ⟨middle, front, back⟩ := ih whole
    exact ⟨middle, .blank isBlank front, back⟩
  | @token t source left more rest spelled tail ih =>
    cases ts with
    | nil =>
      rw [List.nil_append] at whole
      subst whole
      exact ⟨_, .done, .token spelled tail⟩
    | cons u ts =>
      obtain ⟨rfl, tokens⟩ := List.cons.inj whole
      obtain ⟨middle, front, back⟩ := ih tokens
      exact ⟨middle, .token spelled front, back⟩

theorem tokensFrom_scans {position : Nat} {cs : List Char} {placed : List Placed}
    (h : tokensFrom position cs = .ok placed) : Scans cs (placed.map Placed.token) [] := by
  fun_induction tokensFrom position cs generalizing placed with
  | case1 => cases h; exact .done
  | case2 position c rest isBlank ih => exact .blank isBlank (ih h)
  | case3 => cases h
  | case4 position c rest notBlank l read ih =>
    obtain ⟨spelled, text⟩ := Lexeme.read_spelled read
    cases tail : tokensFrom (position + byteLength l.source) l.rest with
    | error e => rw [tail] at h; cases h
    | ok more =>
      rw [tail] at h
      cases h
      rw [text]
      exact .token spelled (ih tail)

/-- What spells a token is read as that token, and the rest from where it ends. -/
theorem tokensFrom_spelled {t : Token} {source left : List Char} (spelled : Spelled t source left)
    (position : Nat) :
    tokensFrom position (source ++ left) =
      (tokensFrom (position + byteLength source) left).map (⟨position, t⟩ :: ·) := by
  obtain ⟨c, cs, rfl⟩ := List.exists_cons_of_ne_nil spelled.ne_nil
  have notBlank := spelled.first c rfl
  have lexeme : Lexeme.read position c (cs ++ left) = _ := spelled.read rfl position
  rw [List.cons_append, tokensFrom, if_neg (by simp [notBlank])]
  split
  · rename_i failed
    rw [lexeme] at failed
    cases failed
  · rename_i l found
    rw [lexeme] at found
    cases found
    rfl

theorem Scans.tokensFrom {cs : List Char} {ts : List Token} (h : Scans cs ts []) (position : Nat) :
    ∃ placed, tokensFrom position cs = .ok placed ∧ placed.map Placed.token = ts := by
  generalize empty : ([] : List Char) = rest at h
  induction h generalizing position with
  | done => exact ⟨[], by subst empty; rw [Expression.tokensFrom], rfl⟩
  | @blank c cs ts rest isBlank _ ih =>
    obtain ⟨placed, read, same⟩ := ih (position + c.utf8Size) empty
    exact ⟨placed, by rw [Expression.tokensFrom, if_pos isBlank, read], same⟩
  | @token t source left ts rest spelled _ ih =>
    obtain ⟨placed, read, same⟩ := ih (position + byteLength source) empty
    exact ⟨⟨position, t⟩ :: placed, by rw [tokensFrom_spelled spelled, read]; rfl, by simp [same]⟩

/-- The tokens of a text are those that scan all of it. -/
theorem tokenize_iff {text : String} {ts : List Token} :
    (∃ placed, tokenize text = .ok placed ∧ placed.map Placed.token = ts) ↔
      Scans text.toList ts [] := by
  constructor
  · rintro ⟨placed, read, rfl⟩
    exact tokensFrom_scans read
  · intro h
    exact h.tokensFrom 0

theorem Scans.unique {cs : List Char} {ts us : List Token} (h : Scans cs ts [])
    (other : Scans cs us []) : ts = us := by
  obtain ⟨placed, read, rfl⟩ := h.tokensFrom 0
  obtain ⟨placed', read', rfl⟩ := other.tokensFrom 0
  rw [read] at read'
  cases read'
  rfl

end ODataQuery.Expression
