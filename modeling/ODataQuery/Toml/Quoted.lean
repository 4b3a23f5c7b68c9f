import ODataQuery.Json.Reader
import ODataQuery.Json.Printer

/-! Strings and keys in TOML: quoted with escapes or without, on one line or on several. A writer takes
the plainest form that can hold the text. -/
namespace ODataQuery.Toml

open Json.Token (hexValue?)

def isSpace (c : Char) : Bool := c = ' ' || c = '\t'

def isInLine (c : Char) : Bool := c = '\t' || (32 ≤ c.toNat && c.toNat != 127)

def startsWithLineEnd : List Char → Bool
  | '\n' :: _ => true
  | '\r' :: '\n' :: _ => true
  | _ => false

def escaped? (c : Char) : Option Char :=
  match c with
  | '"' => some '"'
  | '\\' => some '\\'
  | 'b' => some '\x08'
  | 'f' => some '\x0c'
  | 'n' => some '\n'
  | 'r' => some '\r'
  | 't' => some '\t'
  | _ => none

def charOfHex? (digits : List Char) : Option Char := do
  let n := (← digits.mapM hexValue?).foldl (fun n d => 16 * n + d) 0
  if n < 0xD800 ∨ (0xDFFF < n ∧ n < 0x110000) then some (Char.ofNat n) else none

/-- Reads a string with escapes up to its closing quote; `done` holds its characters so far, last one
first. -/
def basic? (done : List Char) : List Char → Option (List Char × List Char)
  | [] => none
  | '"' :: rest => some (done.reverse, rest)
  | '\\' :: 'u' :: a :: b :: c :: d :: rest => do
    basic? ((← charOfHex? [a, b, c, d]) :: done) rest
  | '\\' :: 'U' :: a :: b :: c :: d :: e :: f :: g :: h :: rest => do
    basic? ((← charOfHex? [a, b, c, d, e, f, g, h]) :: done) rest
  | '\\' :: c :: rest => do basic? ((← escaped? c) :: done) rest
  | c :: rest => if isInLine c ∧ c ≠ '\\' then basic? (c :: done) rest else none

/-- Reads a string of several lines with escapes. A backslash at the end of a line takes away that end
and all blanks behind it, which is when `skipping`. Up to two quotes may stand before the closing
three. -/
def basicLines? (skipping : Bool) (done : List Char) : List Char → Option (List Char × List Char)
  | [] => none
  | '"' :: '"' :: '"' :: '"' :: '"' :: rest => some (('"' :: '"' :: done).reverse, rest)
  | '"' :: '"' :: '"' :: '"' :: rest => some (('"' :: done).reverse, rest)
  | '"' :: '"' :: '"' :: rest => some (done.reverse, rest)
  | '\\' :: 'u' :: a :: b :: c :: d :: rest => do
    basicLines? false ((← charOfHex? [a, b, c, d]) :: done) rest
  | '\\' :: 'U' :: a :: b :: c :: d :: e :: f :: g :: h :: rest => do
    basicLines? false ((← charOfHex? [a, b, c, d, e, f, g, h]) :: done) rest
  | '\\' :: c :: rest =>
    if startsWithLineEnd ((c :: rest).dropWhile isSpace) then basicLines? true done rest
    else do basicLines? false ((← escaped? c) :: done) rest
  | '\r' :: '\n' :: rest => basicLines? skipping (if skipping then done else '\n' :: done) rest
  | c :: rest =>
    if skipping ∧ (isSpace c ∨ c = '\n') then basicLines? true done rest
    else if (isInLine c ∧ c ≠ '\\') ∨ c = '\n' then basicLines? false (c :: done) rest
    else none

/-- Reads a string without escapes up to its closing quote. -/
def literal? (done : List Char) : List Char → Option (List Char × List Char)
  | [] => none
  | '\'' :: rest => some (done.reverse, rest)
  | c :: rest => if isInLine c then literal? (c :: done) rest else none

def literalLines? (done : List Char) : List Char → Option (List Char × List Char)
  | [] => none
  | '\'' :: '\'' :: '\'' :: '\'' :: '\'' :: rest => some (('\'' :: '\'' :: done).reverse, rest)
  | '\'' :: '\'' :: '\'' :: '\'' :: rest => some (('\'' :: done).reverse, rest)
  | '\'' :: '\'' :: '\'' :: rest => some (done.reverse, rest)
  | '\r' :: '\n' :: rest => literalLines? ('\n' :: done) rest
  | c :: rest => if isInLine c ∨ c = '\n' then literalLines? (c :: done) rest else none

/-- A text without a line end at its front. -/
def dropLineEnd : List Char → List Char
  | '\n' :: rest => rest
  | '\r' :: '\n' :: rest => rest
  | cs => cs

def oneLine? : List Char → Option (List Char × List Char)
  | '"' :: rest => basic? [] rest
  | '\'' :: rest => literal? [] rest
  | _ => none

def quoted? : List Char → Option (List Char × List Char)
  | '"' :: '"' :: '"' :: rest => basicLines? false [] (dropLineEnd rest)
  | '\'' :: '\'' :: '\'' :: rest => literalLines? [] (dropLineEnd rest)
  | cs => oneLine? cs

/-- The longest run of a character in a text; `here` is the length of the run that ends in front. -/
def longestRun (c : Char) (here : Nat) : List Char → Nat
  | [] => 0
  | d :: rest => if d = c then max (here + 1) (longestRun c (here + 1) rest) else longestRun c 0 rest

/-- Control characters that can only be written as escapes. -/
def needsEscape (c : Char) : Bool := !(isInLine c || c = '\n')

/-- A character between quotes that allow escapes; line ends stay where there may be several lines. -/
def escape (lines : Bool) (c : Char) : List Char :=
  match c with
  | '\\' => ['\\', '\\']
  | '\t' => ['\\', 't']
  | '\r' => ['\\', 'r']
  | '\n' => if lines then ['\n'] else ['\\', 'n']
  | _ =>
    if c = '\x08' then ['\\', 'b']
    else if c = '\x0c' then ['\\', 'f']
    else if c.toNat < 32 ∨ c.toNat = 127 then
      "\\u00".toList ++ (Nat.toDigits 16 (c.toNat / 16) ++ Nat.toDigits 16 (c.toNat % 16)).map Char.toUpper
    else [c]

/-- The characters of a text between quotes that allow escapes. At most `free` quotes in a row stay as
they are, of which there are `run` in front. -/
def escapeAll (lines : Bool) (free run : Nat) : List Char → List Char
  | [] => []
  | c :: rest =>
    if c = '"' then
      if run < free then '"' :: escapeAll lines free (run + 1) rest
      else '\\' :: '"' :: escapeAll lines free 0 rest
    else escape lines c ++ escapeAll lines free 0 rest

def tripled (quote : Char) (body : List Char) : List Char :=
  let mark := [quote, quote, quote]
  mark ++ (if body.contains '\n' then ['\n'] else []) ++ body ++ mark

/-- A text in the plainest form that can hold it: in double quotes, in single quotes, in three double or
three single quotes, each without escapes; else with escapes. -/
def stringText (s : String) : List Char :=
  let cs := s.toList
  let control := cs.any needsEscape
  let backslash := cs.contains '\\'
  let several := cs.contains '\n'
  let doubles := longestRun '"' 0 cs
  let singles := longestRun '\'' 0 cs
  if !control ∧ !backslash ∧ doubles = 0 ∧ !several then '"' :: (escapeAll false 0 0 cs ++ ['"'])
  else if !control ∧ singles = 0 ∧ !several then '\'' :: (cs ++ ['\''])
  else if !control ∧ !backslash ∧ doubles ≤ 2 then tripled '"' (escapeAll true 2 0 cs)
  else if !control ∧ singles ≤ 2 then tripled '\'' cs
  else if several then tripled '"' (escapeAll true 2 0 cs)
  else '"' :: (escapeAll false 0 0 cs ++ ['"'])

def isBareKeyChar (c : Char) : Bool := c.isAlphanum || c = '_' || c = '-'

/-- A key, bare if it can be, else on one line in the plainest quotes. -/
def keyText (s : String) : List Char :=
  let cs := s.toList
  let control := cs.any fun c => needsEscape c || c = '\n'
  if !cs.isEmpty ∧ cs.all isBareKeyChar then cs
  else if !control ∧ !cs.contains '\\' ∧ !cs.contains '"' then '"' :: (escapeAll false 0 0 cs ++ ['"'])
  else if !control ∧ !cs.contains '\'' then '\'' :: (cs ++ ['\''])
  else '"' :: (escapeAll false 0 0 cs ++ ['"'])

end ODataQuery.Toml
