import ODataQuery.Number.Text

/-! Percent-encoding. A character outside a safe set is written as its UTF-8 bytes, each as a percent
sign and two hexadecimal digits. -/
namespace ODataQuery.Url

def upperHexDigit (n : Nat) : Char := if n < 10 then Char.ofNat (48 + n) else Char.ofNat (55 + n)

def encodeByte (b : UInt8) : List Char :=
  ['%', upperHexDigit (b.toNat / 16), upperHexDigit (b.toNat % 16)]

def encodeChar (c : Char) : List Char := (String.utf8EncodeChar c).flatMap encodeByte

def percentEncode (safe : Char → Bool) (cs : List Char) : List Char :=
  cs.flatMap fun c => if safe c then [c] else encodeChar c

def hexValue? (c : Char) : Option Nat :=
  if '0' ≤ c ∧ c ≤ '9' then some (c.toNat - 48)
  else if 'a' ≤ c ∧ c ≤ 'f' then some (c.toNat - 87)
  else if 'A' ≤ c ∧ c ≤ 'F' then some (c.toNat - 55)
  else none

/-- The bytes of a text in which percent signs with two hexadecimal digits stand for bytes; any other
percent sign stands for itself. -/
def percentDecode : List Char → List UInt8
  | '%' :: a :: b :: rest =>
    match hexValue? a, hexValue? b with
    | some x, some y => UInt8.ofNat (16 * x + y) :: percentDecode rest
    | _, _ => UInt8.ofNat '%'.toNat :: percentDecode (a :: b :: rest)
  | c :: rest => String.utf8EncodeChar c ++ percentDecode rest
  | [] => []

def isVisibleAscii (c : Char) : Bool := decide (0x20 ≤ c.toNat) && decide (c.toNat ≤ 0x7E)

/-- What an unstructured path, or a host of no known scheme, keeps as it is. -/
def isPlainSafe (c : Char) : Bool := isVisibleAscii c

def isFragmentSafe (c : Char) : Bool := isVisibleAscii c && !" \"<>`".toList.contains c

def isPathSafe (c : Char) : Bool := isFragmentSafe c && !"#?\x7b\x7d".toList.contains c

def isUserSafe (c : Char) : Bool := isPathSafe c && !"/:;=@[\\]^|".toList.contains c

/-- What a query keeps; the known schemes encode a single quote as well. -/
def isQuerySafe (special : Bool) (c : Char) : Bool :=
  isVisibleAscii c && !" \"#<>".toList.contains c && !(special && c = '\'')

end ODataQuery.Url
