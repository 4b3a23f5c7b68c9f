import ODataQuery.Toml.Scalar
import ODataQuery.Toml.Table

/-! Reading TOML documents. Arrays and inline tables nest at most 79 deep. -/
namespace ODataQuery.Toml

def dropSpaces (cs : List Char) : List Char := cs.dropWhile isSpace

/-- What follows blanks, line ends and comments; `none` for a comment with a control character. -/
def dropGaps? (inComment : Bool) : List Char → Option (List Char)
  | [] => some []
  | '\r' :: '\n' :: rest => dropGaps? false rest
  | c :: rest =>
    if c = '\n' then dropGaps? false rest
    else if inComment then (if isInLine c then dropGaps? true rest else none)
    else if isSpace c then dropGaps? false rest
    else if c = '#' then dropGaps? true rest
    else some (c :: rest)

/-- What follows the rest of a line, which may hold a comment only. -/
def endLine? (cs : List Char) : Option (List Char) :=
  let afterComment := match dropSpaces cs with
    | '#' :: rest => rest.dropWhile isInLine
    | rest => rest
  match afterComment with
  | [] => some []
  | '\n' :: rest => some rest
  | '\r' :: '\n' :: rest => some rest
  | _ => none

def simpleKey? (cs : List Char) : Option (String × List Char) :=
  match oneLine? cs with
  | some (s, rest) => some (String.ofList s, rest)
  | none =>
    let key := cs.takeWhile isBareKeyChar
    if key.isEmpty then none else some (String.ofList key, cs.dropWhile isBareKeyChar)

/-- At most `fuel` keys with points between them, and what follows the blanks behind them. -/
def keys? : Nat → List Char → Option (List String × List Char)
  | 0, _ => none
  | fuel + 1, cs => do
    let (key, rest) ← simpleKey? (dropSpaces cs)
    match dropSpaces rest with
    | '.' :: more => do
      let (keys, left) ← keys? fuel more
      some (key :: keys, left)
    | left => some ([key], left)

/-- A key has fewer than 80 parts. -/
def path? (cs : List Char) : Option (List String × List Char) := keys? 79 cs

/-- Values up to the end of an array, at most `fuel` of them; `read` reads one. -/
def items? (read : List Char → Option (Toml × List Char)) :
    Nat → List Char → Option (List Toml × List Char)
  | 0, _ => none
  | fuel + 1, cs => do
    match ← dropGaps? false cs with
    | ']' :: rest => some ([], rest)
    | start =>
      let (item, behind) ← read start
      match ← dropGaps? false behind with
      | ']' :: rest => some ([item], rest)
      | ',' :: rest =>
        let (items, left) ← items? read fuel rest
        some (item :: items, left)
      | _ => none

def pair? (read : List Char → Option (Toml × List Char)) (cs : List Char) :
    Option ((List String × Toml) × List Char) := do
  match ← path? cs with
  | (path, '=' :: rest) =>
    let (value, left) ← read (dropSpaces rest)
    some ((path, value), left)
  | _ => none

/-- Pairs up to the end of an inline table, at least one and at most `fuel` of them. -/
def pairs? (read : List Char → Option (Toml × List Char)) :
    Nat → List Char → Option (List (List String × Toml) × List Char)
  | 0, _ => none
  | fuel + 1, cs => do
    let (pair, behind) ← pair? read cs
    match dropSpaces behind with
    | '}' :: rest => some ([pair], rest)
    | ',' :: rest =>
      let (pairs, left) ← pairs? read fuel rest
      some (pair :: pairs, left)
    | _ => none

def inlineTable? (read : List Char → Option (Toml × List Char)) (cs : List Char) :
    Option (Toml × List Char) :=
  match dropSpaces cs with
  | '}' :: rest => some (table [], rest)
  | _ => do
    let (pairs, rest) ← pairs? read cs.length cs
    let entries ← Entries.ofPairs? pairs
    some (table (Node.entriesToToml entries), rest)

/-- A value with others at most `depth` deep inside it. -/
def value? : Nat → List Char → Option (Toml × List Char)
  | 0, cs => scalar? cs
  | depth + 1, cs =>
    match cs with
    | '[' :: rest =>
      (items? (value? depth) (rest.length + 1) rest).map fun (items, left) => (array items, left)
    | '{' :: rest => inlineTable? (value? depth) rest
    | _ => scalar? cs

/-- Splits a path into the tables on the way and its last key. -/
def splitLast? (path : List String) : Option (List String × String) :=
  path.getLast?.map fun key => (path.dropLast, key)

/-- Reads on in a document of at most `fuel` lines; `here` is the path of the table that takes the next
values. -/
def lines? : Nat → List String → Entries → List Char → Option Entries
  | 0, _, root, cs => if cs.isEmpty then some root else none
  | fuel + 1, here, root, cs =>
    match dropSpaces cs with
    | [] => some root
    | '[' :: '[' :: rest => do
      match ← path? rest with
      | (path, ']' :: ']' :: behind) =>
        let (way, key) ← splitLast? path
        lines? fuel path (← root.update (·.openNext key) way) (← endLine? behind)
      | _ => none
    | '[' :: rest => do
      match ← path? rest with
      | (path, ']' :: behind) =>
        let (way, key) ← splitLast? path
        lines? fuel path (← root.update (·.openTable key) way) (← endLine? behind)
      | _ => none
    | c :: rest =>
      if c = '#' ∨ startsWithLineEnd (c :: rest) then do
        lines? fuel here root (← endLine? (c :: rest))
      else do
        let ((path, value), behind) ← pair? (value? 79) (c :: rest)
        lines? fuel here (← root.update (·.put value path) here) (← endLine? behind)

/-- The table of a document. A byte order mark in front does not count. -/
def parse? (s : String) : Option (List (String × Toml)) := do
  let cs := match s.toList with
    | c :: rest => if c.toNat = 0xFEFF then rest else c :: rest
    | [] => []
  let root ← lines? (cs.length + 1) [] [] cs
  some (Node.entriesToToml root)

end ODataQuery.Toml
