import ODataQuery.Json.Basic

/-! The text of JSON numbers. A whole number of at most 64 bits is kept exactly. Any other number is
read in two steps, a significand of at most 64 bits and one scaling by a power of ten, each of them
rounded; reals are written with the fewest digits that read back, positionally for exponents from
-5 to 15. -/
namespace ODataQuery.Json.Number

def maxNatural : Nat := 18446744073709551615

/-- Takes digits onto `value` while it stays within 64 bits; the second part is what was not
taken. -/
def takeDigits (value : Nat) : List Char → Nat × List Char
  | [] => (value, [])
  | c :: rest =>
    let next := 10 * value + valueOfDigits [c]
    if next ≤ maxNatural then takeDigits next rest else (value, c :: rest)

def tenTo (e : Nat) : Binary64 := Decimal.round false ⟨1, e⟩

/-- Divides by ten to the power `e`, in steps of 308 while it is larger. -/
def scaleDown (x : Binary64) (e : Nat) : Binary64 :=
  if e ≤ 308 then x.div (tenTo e)
  else if x.isZero then x
  else scaleDown (x.div (tenTo 308)) (e - 308)
termination_by e

/-- A significand times ten to the power `exponent`; `none` when that is out of range. -/
def scale? (significand : Nat) (exponent : Int) : Option Binary64 :=
  let x := Binary64.ofNat significand
  if exponent < 0 then some (scaleDown x exponent.natAbs)
  else if exponent ≤ 308 then
    let scaled := x.mul (tenTo exponent.natAbs)
    if scaled.isFinite then some scaled else none
  else if x.isZero then some x
  else none

def withSign (negative : Bool) (x : Binary64) : Binary64 := if negative then x.neg else x

/-- A number without point and exponent, all of whose digits fit into 64 bits. Minus zero and
numbers below -2⁶³ are reals. -/
def ofWhole (negative : Bool) (n : Nat) : Number :=
  if !negative then integer n
  else if n = 0 ∨ 9223372036854775808 < n then real (Binary64.ofNat n).neg
  else integer (-(n : Int))

/-- The number written with these whole digits, fraction digits and exponent. Digits that no longer
fit into the significand are dropped; whole ones raise the exponent. -/
def ofParts? (negative : Bool) (whole : List Char) (fraction : List Char)
    (exponent : Option Int) : Option Number :=
  let (first, wholeLeft) := takeDigits 0 whole
  if fraction.isEmpty ∧ exponent.isNone ∧ wholeLeft.isEmpty then some (ofWhole negative first)
  else
    let (significand, fractionLeft) := takeDigits first fraction
    let places : Int := fraction.length - fractionLeft.length
    let power : Int := wholeLeft.length - places + exponent.getD 0
    (scale? significand power).map fun x => real (withSign negative x)

/-- Splits a fraction off: a point and at least one digit. `none` marks a point alone. -/
def splitFraction? : List Char → Option (List Char × List Char)
  | '.' :: rest =>
    if (rest.takeWhile isDigit).isEmpty then none
    else some (rest.takeWhile isDigit, rest.dropWhile isDigit)
  | cs => some ([], cs)

/-- Splits an exponent off: e or E, perhaps a sign, and at least one digit. -/
def splitExponent? : List Char → Option (Option Int × List Char)
  | [] => some (none, [])
  | c :: rest =>
    if c = 'e' ∨ c = 'E' then
      let (negative, digits) := splitSign rest
      if (digits.takeWhile isDigit).isEmpty then none
      else
        let size : Int := valueOfDigits (digits.takeWhile isDigit)
        some (some (if negative then -size else size), digits.dropWhile isDigit)
    else some (none, c :: rest)

/-- Reads a number from the front of a text and gives what follows it. A whole part of several
digits does not begin with zero. -/
def read? (cs : List Char) : Option (Number × List Char) := do
  let (negative, digits) := match cs with
    | '-' :: rest => (true, rest)
    | _ => (false, cs)
  let whole := digits.takeWhile isDigit
  if whole.isEmpty ∨ (whole.head? = some '0' ∧ 1 < whole.length) then none
  let (fraction, afterFraction) ← splitFraction? (digits.dropWhile isDigit)
  let (exponent, rest) ← splitExponent? afterFraction
  let n ← ofParts? negative whole fraction exponent
  some (n, rest)

def intText (z : Int) : List Char := (if z < 0 then ['-'] else []) ++ digitsOf z.natAbs

/-- An exponent always has a sign. -/
def exponentText (z : Int) : List Char := (if z < 0 then '-' else '+') :: digitsOf z.natAbs

/-- A finite magnitude with a point or an exponent, so that it reads back as a real. -/
def magnitudeText (d : Decimal) : List Char :=
  let digits := digitsOf d.digits
  let point : Int := digits.length + d.exponent
  if d.digits = 0 then "0.0".toList
  else if 0 ≤ d.exponent ∧ point ≤ 16 then
    digits ++ List.replicate d.exponent.natAbs '0' ++ ['.', '0']
  else if -5 < point ∧ point ≤ 16 then d.positional
  else
    let mantissa := match digits with
      | first :: second :: rest => first :: '.' :: second :: rest
      | single => single
    mantissa ++ 'e' :: exponentText (point - 1)

def text : Number → List Char
  | integer z => intText z
  | real (.finite negative m) =>
    (if negative then ['-'] else []) ++ magnitudeText (Decimal.shortest m)
  | real _ => "null".toList

end ODataQuery.Json.Number
