/-! Globally unique identifiers: thirty-two hexadecimal digits, written in groups of eight, four,
four, four and twelve. Reading also takes them without hyphens, in braces or as a URN. -/
namespace ODataQuery

structure Guid where
  digits : List (Fin 16)
  length_digits : digits.length = 32
  deriving DecidableEq

namespace Guid

/-- The lower `count` hexadecimal digits of `n`, most significant first. -/
def lowDigits (n : Nat) : Nat → List (Fin 16)
  | 0 => []
  | count + 1 => Fin.ofNat 16 (n / Nat.pow 16 count) :: lowDigits n count

theorem length_lowDigits (n count : Nat) : (lowDigits n count).length = count := by
  induction count with
  | zero => rfl
  | succ count ih => simp [lowDigits, ih]

def ofNat (n : Nat) : Guid := ⟨lowDigits n 32, length_lowDigits n 32⟩

def nil : Guid := ofNat 0

instance : Inhabited Guid := ⟨nil⟩

def toNat (g : Guid) : Nat := g.digits.foldl (fun n d => 16 * n + d.val) 0

def hexDigit (d : Fin 16) : Char :=
  if d.val < 10 then Char.ofNat ('0'.toNat + d.val) else Char.ofNat ('a'.toNat + (d.val - 10))

def hexValue? (c : Char) : Option (Fin 16) :=
  let n := c.toLower.toNat
  if '0'.toNat ≤ n ∧ n ≤ '9'.toNat then some (Fin.ofNat 16 (n - '0'.toNat))
  else if 'a'.toNat ≤ n ∧ n ≤ 'f'.toNat then some (Fin.ofNat 16 (n - 'a'.toNat + 10))
  else none

theorem hexValue?_hexDigit (d : Fin 16) : hexValue? (hexDigit d) = some d := by
  revert d; decide

/-- Characters with hyphens behind the eighth, twelfth, sixteenth and twentieth. -/
def hyphenated (cs : List Char) : List Char :=
  cs.take 8 ++ '-' :: ((cs.drop 8).take 4 ++ '-' :: ((cs.drop 12).take 4 ++
    '-' :: ((cs.drop 16).take 4 ++ '-' :: cs.drop 20)))

def text (g : Guid) : String := String.ofList (hyphenated (g.digits.map hexDigit))

/-- Thirty-two hexadecimal digits. -/
def ofDigits? (cs : List Char) : Option Guid := do
  let digits ← cs.mapM hexValue?
  if h : digits.length = 32 then some ⟨digits, h⟩ else none

def ofHyphenated? (cs : List Char) : Option Guid :=
  let bare := cs.take 8 ++ (cs.drop 9).take 4 ++ (cs.drop 14).take 4 ++ (cs.drop 19).take 4 ++
    cs.drop 24
  if bare.length = 32 ∧ cs = hyphenated bare then ofDigits? bare else none

def ofText? (s : String) : Option Guid :=
  let cs := s.toList
  match cs.length with
  | 32 => ofDigits? cs
  | 36 => ofHyphenated? cs
  | 38 =>
    if cs.head? = some '{' ∧ cs.getLast? = some '}' then ofHyphenated? (cs.drop 1).dropLast
    else none
  | 45 => if cs.take 9 = "urn:uuid:".toList then ofHyphenated? (cs.drop 9) else none
  | _ => none

end Guid

end ODataQuery
