import ODataQuery.Json.Number

/-! Reading JSON text: first its tokens, then one pass over them with the containers that are still
open. Containers nest at most 127 deep. -/
namespace ODataQuery.Json

inductive Token
  | openArray
  | closeArray
  | openObject
  | closeObject
  | comma
  | colon
  | scalar (value : Json)

namespace Token

def isSpace (c : Char) : Bool := c = ' ' || c = '\t' || c = '\n' || c = '\r'

def hexValue? (c : Char) : Option Nat :=
  if '0' ≤ c ∧ c ≤ '9' then some (c.toNat - 48)
  else if 'a' ≤ c ∧ c ≤ 'f' then some (c.toNat - 87)
  else if 'A' ≤ c ∧ c ≤ 'F' then some (c.toNat - 55)
  else none

def unit? (a b c d : Char) : Option Nat := do
  some ((← hexValue? a) * 4096 + (← hexValue? b) * 256 + (← hexValue? c) * 16 + (← hexValue? d))

def escaped? (c : Char) : Option Char :=
  match c with
  | '"' => some '"'
  | '\\' => some '\\'
  | '/' => some '/'
  | 'b' => some '\x08'
  | 'f' => some '\x0c'
  | 'n' => some '\n'
  | 'r' => some '\r'
  | 't' => some '\t'
  | _ => none

/-- Reads a string up to its closing quote; `done` holds its characters so far, last one first. Two
escaped units make a character beyond the first 65536; half a pair is refused, and so are control
characters. -/
def string? (done : List Char) : List Char → Option (String × List Char)
  | [] => none
  | '"' :: rest => some (String.ofList done.reverse, rest)
  | '\\' :: 'u' :: a :: b :: c :: d :: '\\' :: 'u' :: a' :: b' :: c' :: d' :: rest => do
    let high ← unit? a b c d
    if 0xD800 ≤ high ∧ high < 0xDC00 then
      let low ← unit? a' b' c' d'
      if 0xDC00 ≤ low ∧ low < 0xE000 then
        string? (Char.ofNat (0x10000 + (high - 0xD800) * 1024 + (low - 0xDC00)) :: done) rest
      else none
    else if 0xDC00 ≤ high ∧ high < 0xE000 then none
    else string? (Char.ofNat high :: done) ('\\' :: 'u' :: a' :: b' :: c' :: d' :: rest)
  | '\\' :: 'u' :: a :: b :: c :: d :: rest => do
    let n ← unit? a b c d
    if 0xD800 ≤ n ∧ n < 0xE000 then none else string? (Char.ofNat n :: done) rest
  | '\\' :: c :: rest => do string? ((← escaped? c) :: done) rest
  | c :: rest => if c.toNat < 32 ∨ c = '\\' then none else string? (c :: done) rest

/-- The token at the front of a text that starts with no space, and what follows it. -/
def read? (cs : List Char) : Option (Token × List Char) :=
  match cs with
  | '[' :: rest => some (openArray, rest)
  | ']' :: rest => some (closeArray, rest)
  | '{' :: rest => some (openObject, rest)
  | '}' :: rest => some (closeObject, rest)
  | ',' :: rest => some (comma, rest)
  | ':' :: rest => some (colon, rest)
  | '"' :: rest => (string? [] rest).map fun (s, left) => (scalar (.string s), left)
  | 'n' :: 'u' :: 'l' :: 'l' :: rest => some (scalar .null, rest)
  | 't' :: 'r' :: 'u' :: 'e' :: rest => some (scalar (.bool true), rest)
  | 'f' :: 'a' :: 'l' :: 's' :: 'e' :: rest => some (scalar (.bool false), rest)
  | _ => (Number.read? cs).map fun (n, left) => (scalar (.number n), left)

def readAll? : Nat → List Char → Option (List Token)
  | 0, cs => if cs.all isSpace then some [] else none
  | fuel + 1, cs =>
    match cs with
    | [] => some []
    | c :: rest =>
      if isSpace c then readAll? fuel rest
      else do
        let (token, left) ← read? (c :: rest)
        let more ← readAll? fuel left
        some (token :: more)

end Token

/-- A container that is being read: the items or members so far, last one first, and for an object
the key whose value comes next. -/
inductive Open
  | array (items : List Json)
  | object (members : List (String × Json)) (key : String)

def maxDepth : Nat := 127

mutual

def expectValue? (outer : List Open) : List Token → Option Json
  | .scalar v :: rest => afterValue? v outer rest
  | .openArray :: .closeArray :: rest =>
    if maxDepth ≤ outer.length then none else afterValue? (.array []) outer rest
  | .openArray :: rest =>
    if maxDepth ≤ outer.length then none else expectValue? (.array [] :: outer) rest
  | .openObject :: .closeObject :: rest =>
    if maxDepth ≤ outer.length then none else afterValue? (.object []) outer rest
  | .openObject :: .scalar (.string key) :: .colon :: rest =>
    if maxDepth ≤ outer.length then none else expectValue? (.object [] key :: outer) rest
  | _ => none

/-- Reads on behind a value: the end of the text, the next item or member, or the end of the
container around it. -/
def afterValue? (v : Json) : List Open → List Token → Option Json
  | [], [] => some v
  | .array items :: outer, .comma :: rest => expectValue? (.array (v :: items) :: outer) rest
  | .array items :: outer, .closeArray :: rest =>
    afterValue? (.array (v :: items).reverse) outer rest
  | .object members key :: outer, .comma :: .scalar (.string next) :: .colon :: rest =>
    expectValue? (.object (setMember members key v) next :: outer) rest
  | .object members key :: outer, .closeObject :: rest =>
    afterValue? (.object (setMember members key v)) outer rest
  | _, _ => none

end

def parse? (s : String) : Option Json := do
  let cs := s.toList
  let tokens ← Token.readAll? cs.length cs
  expectValue? [] tokens

end ODataQuery.Json
