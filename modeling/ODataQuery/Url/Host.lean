import ODataQuery.Url.Percent
import ODataQuery.Text.Case
import ODataQuery.Text.Blank

/-! Hosts: domain names in ASCII, numeric addresses of both families, and, behind schemes that are not
known, any name. The tables of international names are not part of this library. -/
namespace ODataQuery.Url

inductive AddressError
  | noScheme
  | emptyHost
  | badDomain
  | badDomainCharacter
  | badV4
  | badV6
  | badPort
  deriving DecidableEq

namespace AddressError

def message : AddressError → String
  | noScheme => "relative URL without a base"
  | emptyHost => "empty host"
  | badDomain => "invalid international domain name"
  | badDomainCharacter => "invalid domain character"
  | badV4 => "invalid IPv4 address"
  | badV6 => "invalid IPv6 address"
  | badPort => "invalid port number"

end AddressError

/-- The forms that domains have in ASCII, as the tables of international names tell them. -/
structure Domains where
  ascii? : String → Option String

/-- Domains in ASCII, written small. Labels that stand for international names have no form here, as
there are no tables to check them. -/
def Domains.plain : Domains where
  ascii? name :=
    let lower := Text.asciiLower name
    let labels := Text.splitChars (· = '.') lower.toList
    if lower.toList.all (·.toNat < 128) && labels.all fun label => !"xn--".toList.isPrefixOf label
    then some lower
    else none

inductive Host
  | domain (name : String)
  | v4 (value : Nat)
  | v6 (pieces : List Nat)
  deriving DecidableEq

namespace Host

/-- A number in base 10, in base 8 behind a zero or in base 16 behind 0x. -/
def v4Number? (s : List Char) : Option Nat :=
  let digitsOf? (base : Nat) (cs : List Char) : Option Nat := do
    let values ← cs.mapM hexValue?
    if values.all (· < base) then some (values.foldl (fun n d => base * n + d) 0) else none
  match s with
  | [] => none
  | '0' :: 'x' :: rest | '0' :: 'X' :: rest => digitsOf? 16 rest
  | '0' :: d :: rest => digitsOf? 8 (d :: rest)
  | digits => digitsOf? 10 digits

def labels (name : List Char) : List (List Char) :=
  let parts := Text.splitChars (· = '.') name
  if parts.getLast? = some [] then parts.dropLast else parts

/-- Whether the last label is a number, so that the whole has to be a numeric address. -/
def endsInNumber (name : List Char) : Bool :=
  match (labels name).getLast? with
  | some last => (!last.isEmpty && last.all isDigit) || (v4Number? last).isSome
  | none => false

/-- Up to four numbers; the last one fills the places that are left. -/
def ofV4 (name : List Char) : Except AddressError Host :=
  let parts := labels name
  match parts.mapM v4Number? with
  | none => .error .badV4
  | some numbers =>
    let leading := numbers.dropLast
    let last := numbers.getLastD 0
    if 4 < parts.length ∨ leading.any (255 < ·) ∨ Nat.pow 256 (4 - leading.length) ≤ last then
      .error .badV4
    else
      .ok (.v4 (leading.foldl (fun n d => 256 * n + d) 0 * Nat.pow 256 (4 - leading.length) + last))

def v4Text (value : Nat) : List Char :=
  List.intercalate ['.']
    ([value / 16777216, value / 65536 % 256, value / 256 % 256, value % 256].map digitsOf)

def v6Piece? (s : List Char) : Option Nat := do
  if s.isEmpty ∨ 4 < s.length then none
  let values ← s.mapM hexValue?
  some (values.foldl (fun n d => 16 * n + d) 0)

def v4Byte? (s : List Char) : Option Nat := do
  let n ← natOfDigits? s
  if n ≤ 255 ∧ (s.head? ≠ some '0' ∨ s.length = 1) then some n else none

/-- Pieces between colons; the last one may be an address of four bytes, which makes two. -/
def v6Pieces? : List (List Char) → Option (List Nat)
  | [] => some []
  | [last] =>
    if last.contains '.' then
      match (Text.splitChars (· = '.') last).mapM v4Byte? with
      | some [a, b, c, d] => some [256 * a + b, 256 * c + d]
      | _ => none
    else (v6Piece? last).map ([·])
  | s :: rest => do some ((← v6Piece? s) :: (← v6Pieces? rest))

def splitDoubleColon : List Char → Option (List Char × List Char)
  | ':' :: ':' :: rest => some ([], rest)
  | c :: rest => (splitDoubleColon rest).map fun (before, after) => (c :: before, after)
  | [] => none

def v6Side? (s : List Char) : Option (List Nat) :=
  if s.isEmpty then some [] else v6Pieces? (Text.splitChars (· = ':') s)

/-- Eight pieces, or fewer with a double colon for the zeros that are missing. -/
def ofV6 (s : List Char) : Except AddressError Host :=
  let pieces := match splitDoubleColon s with
    | none => (v6Side? s).filter (·.length = 8)
    | some (before, after) => do
      if before.contains '.' then none
      let front ← v6Side? before
      let back ← v6Side? after
      if front.length + back.length < 8 then
        some (front ++ List.replicate (8 - front.length - back.length) 0 ++ back)
      else none
  match pieces with
  | some ps => .ok (.v6 ps)
  | none => .error .badV6

def hexText (n : Nat) : List Char := Nat.toDigits 16 n

def zerosAtFront (ps : List Nat) : Nat := (ps.takeWhile (· = 0)).length

/-- Where the longest run of zeros starts, the first of several; `index` is the place of the first
piece, and the answer holds the start and the length. -/
def longestZeros (index : Nat) : List Nat → Nat × Nat
  | [] => (index, 0)
  | p :: rest =>
    let here := zerosAtFront (p :: rest)
    let later := longestZeros (index + 1) rest
    if here < later.2 then later else (index, here)

/-- Pieces in hexadecimal, with a double colon for the first of the longest runs of two zeros or
more. -/
def v6Text (ps : List Nat) : List Char :=
  let joined (qs : List Nat) := List.intercalate [':'] (qs.map hexText)
  let (start, length) := longestZeros 0 ps
  if length < 2 then joined ps
  else joined (ps.take start) ++ [':', ':'] ++ joined (ps.drop (start + length))

/-- Characters that no domain holds. -/
def isForbidden (c : Char) : Bool :=
  c.toNat ≤ 32 || c.toNat = 127 || "%#/:<>?@[\\]^|".toList.contains c

/-- The ASCII form of a domain. Percent signs are decoded first; what no domain may hold is looked for in
the form. -/
def asciiDomain? (domains : Domains) (s : List Char) : Option (List Char) := do
  let decoded ← String.fromUTF8? ⟨(percentDecode s).toArray⟩
  let name ← domains.ascii? decoded
  if name.toList.any isForbidden then none else some name.toList

def ofSpecial (domains : Domains) (s : List Char) : Except AddressError Host :=
  match s with
  | '[' :: rest =>
    if rest.getLast? = some ']' then ofV6 rest.dropLast else .error .badV6
  | _ =>
    match asciiDomain? domains s with
    | none => .error .badDomain
    | some [] => .error .emptyHost
    | some name =>
      if endsInNumber name then ofV4 name else .ok (.domain (String.ofList name))

/-- Characters that no host of any scheme holds. -/
def isForbiddenAnywhere (c : Char) : Bool :=
  c.toNat = 0 || " \t\n\r#/:<>?@[\\]^|".toList.contains c

def ofAny (s : List Char) : Except AddressError Host :=
  match s with
  | '[' :: rest =>
    if rest.getLast? = some ']' then ofV6 rest.dropLast else .error .badV6
  | _ =>
    if s.any isForbiddenAnywhere then .error .badDomainCharacter
    else .ok (.domain (String.ofList (percentEncode isPlainSafe s)))

def text : Host → List Char
  | domain name => name.toList
  | v4 value => v4Text value
  | v6 pieces => '[' :: (v6Text pieces ++ [']'])

end Host

end ODataQuery.Url
