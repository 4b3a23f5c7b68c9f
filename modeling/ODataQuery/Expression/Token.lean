import ODataQuery.Filter.Error
import ODataQuery.Text.Alphanumeric
import ODataQuery.Text.Blank

/-! The tokens of filter expressions. Reading gives every token its source, the characters it was
read from, so that tokens and blanks together are the whole text; positions count bytes. -/
namespace ODataQuery.Expression

inductive Symbol
  | equal
  | doubleEqual
  | notEqual
  | angles
  | less
  | lessOrEqual
  | greater
  | greaterOrEqual
  deriving DecidableEq

namespace Symbol

def text : Symbol → String
  | equal => "="
  | doubleEqual => "=="
  | notEqual => "!="
  | angles => "<>"
  | less => "<"
  | lessOrEqual => "<="
  | greater => ">"
  | greaterOrEqual => ">="

def operator : Symbol → Operator
  | equal | doubleEqual => .equal
  | notEqual | angles => .notEqual
  | less => .less
  | lessOrEqual => .lessOrEqual
  | greater => .greater
  | greaterOrEqual => .greaterOrEqual

theorem ofText?_text (s : Symbol) : Operator.ofText? s.text = some s.operator := by
  cases s <;> decide

end Symbol

inductive Token
  | word (text : String)
  | quoted (value : String)
  | symbol (symbol : Symbol)
  | openParen
  | closeParen
  | comma
  deriving DecidableEq

structure Placed where
  position : Nat
  token : Token
  deriving DecidableEq

namespace Token

def isKeyword (keyword : String) : Token → Bool
  | word w => Text.equalsIgnoringCase w keyword
  | _ => false

def describe : Token → String
  | word w => w
  | quoted s => "'" ++ s ++ "'"
  | symbol s => s.text
  | openParen => "("
  | closeParen => ")"
  | comma => ","

end Token

def isWordStart (c : Char) : Bool :=
  Text.isAlphanumeric c || c = '_' || c = '-' || c = '+' || c = '$' || c = '@'

def isWordChar (c : Char) : Bool :=
  isWordStart c || c = '.' || c = '/' || c = ':'

def byteLength (cs : List Char) : Nat := cs.foldr (fun c bytes => c.utf8Size + bytes) 0

/-- A token with its source and the characters behind it. -/
structure Lexeme where
  token : Token
  source : List Char
  rest : List Char

namespace Lexeme

/-- Reads on to the closing single quote; two of them stand for one. The result is the value, its
source with the closing quote, and what follows. -/
def singleQuoted? : List Char → Option (List Char × List Char × List Char)
  | [] => none
  | '\'' :: '\'' :: rest =>
    (singleQuoted? rest).map fun (value, source, left) =>
      ('\'' :: value, '\'' :: '\'' :: source, left)
  | c :: rest =>
    if c = '\'' then some ([], ['\''], rest)
    else (singleQuoted? rest).map fun (value, source, left) => (c :: value, c :: source, left)

/-- Reads on to the closing double quote; a backslash gives the next character its plain
meaning. -/
def doubleQuoted? : List Char → Option (List Char × List Char × List Char)
  | [] => none
  | '\\' :: [] => none
  | '\\' :: c :: rest =>
    (doubleQuoted? rest).map fun (value, source, left) => (c :: value, '\\' :: c :: source, left)
  | c :: rest =>
    if c = '"' then some ([], ['"'], rest)
    else (doubleQuoted? rest).map fun (value, source, left) => (c :: value, c :: source, left)

def symbol? (first : Char) (rest : List Char) : Option Lexeme :=
  match first, rest with
  | '=', '=' :: more => some ⟨.symbol .doubleEqual, ['=', '='], more⟩
  | '=', _ => some ⟨.symbol .equal, ['='], rest⟩
  | '!', '=' :: more => some ⟨.symbol .notEqual, ['!', '='], more⟩
  | '<', '>' :: more => some ⟨.symbol .angles, ['<', '>'], more⟩
  | '<', '=' :: more => some ⟨.symbol .lessOrEqual, ['<', '='], more⟩
  | '<', _ => some ⟨.symbol .less, ['<'], rest⟩
  | '>', '=' :: more => some ⟨.symbol .greaterOrEqual, ['>', '='], more⟩
  | '>', _ => some ⟨.symbol .greater, ['>'], rest⟩
  | _, _ => none

/-- A quoted token from its opening quote and what was read behind it. -/
def ofQuoted (quote : Char) : List Char × List Char × List Char → Lexeme
  | (value, source, left) => ⟨.quoted (String.ofList value), quote :: source, left⟩

/-- Reads the token that begins with `c` at this position. -/
def read (position : Nat) (c : Char) (rest : List Char) : Except FilterError Lexeme :=
  if c = '(' then .ok ⟨.openParen, [c], rest⟩
  else if c = ')' then .ok ⟨.closeParen, [c], rest⟩
  else if c = ',' then .ok ⟨.comma, [c], rest⟩
  else if c = '\'' then
    match singleQuoted? rest with
    | some parts => .ok (ofQuoted c parts)
    | none => .error (.unterminatedString position)
  else if c = '"' then
    match doubleQuoted? rest with
    | some parts => .ok (ofQuoted c parts)
    | none => .error (.unterminatedString position)
  else if isWordStart c then
    .ok ⟨.word (String.ofList (c :: rest.takeWhile isWordChar)), c :: rest.takeWhile isWordChar,
      rest.dropWhile isWordChar⟩
  else
    match symbol? c rest with
    | some lexeme => .ok lexeme
    | none => .error (.unexpectedCharacter c position)

theorem singleQuoted?_source {cs value source left : List Char}
    (h : singleQuoted? cs = some (value, source, left)) : source ++ left = cs := by
  fun_induction singleQuoted? cs generalizing value source with
  | case1 => simp at h
  | case2 rest ih =>
    obtain ⟨⟨v, s, l⟩, hr, he⟩ := Option.map_eq_some_iff.mp h
    simp only [Prod.mk.injEq] at he
    obtain ⟨-, rfl, rfl⟩ := he
    simp [ih hr]
  | case3 rest =>
    simp only [Option.some.injEq, Prod.mk.injEq] at h
    obtain ⟨-, rfl, rfl⟩ := h
    rfl
  | case4 c rest _ hc ih =>
    obtain ⟨⟨v, s, l⟩, hr, he⟩ := Option.map_eq_some_iff.mp h
    simp only [Prod.mk.injEq] at he
    obtain ⟨-, rfl, rfl⟩ := he
    simp [ih hr]

theorem doubleQuoted?_source {cs value source left : List Char}
    (h : doubleQuoted? cs = some (value, source, left)) : source ++ left = cs := by
  fun_induction doubleQuoted? cs generalizing value source with
  | case1 => simp at h
  | case2 => simp at h
  | case3 c rest ih =>
    obtain ⟨⟨v, s, l⟩, hr, he⟩ := Option.map_eq_some_iff.mp h
    simp only [Prod.mk.injEq] at he
    obtain ⟨-, rfl, rfl⟩ := he
    simp [ih hr]
  | case4 rest =>
    simp only [Option.some.injEq, Prod.mk.injEq] at h
    obtain ⟨-, rfl, rfl⟩ := h
    rfl
  | case5 c rest _ _ hc ih =>
    obtain ⟨⟨v, s, l⟩, hr, he⟩ := Option.map_eq_some_iff.mp h
    simp only [Prod.mk.injEq] at he
    obtain ⟨-, rfl, rfl⟩ := he
    simp [ih hr]

theorem symbol?_source {first : Char} {rest : List Char} {l : Lexeme}
    (h : symbol? first rest = some l) : l.source ++ l.rest = first :: rest ∧ l.source ≠ [] := by
  unfold symbol? at h
  split at h <;> simp at h <;> subst h <;> simp

/-- A lexeme and what follows it are the text it was read from. -/
theorem read_source {position : Nat} {c : Char} {rest : List Char} {l : Lexeme}
    (h : read position c rest = .ok l) : l.source ++ l.rest = c :: rest ∧ l.source ≠ [] := by
  unfold read at h
  repeat' split at h
  all_goals first
    | (cases h; done)
    | (simp only [Except.ok.injEq] at h; subst h)
  · simp
  · simp
  · simp
  · rename_i parts hq
    obtain ⟨v, s, r⟩ := parts
    simp [ofQuoted, singleQuoted?_source hq]
  · rename_i parts hq
    obtain ⟨v, s, r⟩ := parts
    simp [ofQuoted, doubleQuoted?_source hq]
  · simp [List.takeWhile_append_dropWhile]
  · rename_i hq
    exact symbol?_source hq

theorem read_shorter {position : Nat} {c : Char} {rest : List Char} {l : Lexeme}
    (h : read position c rest = .ok l) : l.rest.length < (c :: rest).length := by
  obtain ⟨whole, nonempty⟩ := read_source h
  rw [← whole, List.length_append]
  have := List.length_pos_iff.mpr nonempty
  omega

end Lexeme

/-- The tokens of a text whose first character stands at this position. -/
def tokensFrom (position : Nat) : List Char → Except FilterError (List Placed)
  | [] => .ok []
  | c :: rest =>
    if Text.isBlank c then tokensFrom (position + c.utf8Size) rest
    else
      match _h : Lexeme.read position c rest with
      | .error e => .error e
      | .ok l => (tokensFrom (position + byteLength l.source) l.rest).map (⟨position, l.token⟩ :: ·)
termination_by cs => cs.length
decreasing_by
  · simp
  · exact Lexeme.read_shorter _h

def tokenize (s : String) : Except FilterError (List Placed) := tokensFrom 0 s.toList

end ODataQuery.Expression
