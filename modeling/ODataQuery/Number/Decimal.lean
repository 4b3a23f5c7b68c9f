import ODataQuery.Number.Binary64

/-! Decimal forms of double-precision numbers. A decimal is a whole number of digits times a power
of ten; reading rounds it, and the shortest form is the one with the fewest digits that reads back
as the same number, the nearer of two such. -/
namespace ODataQuery

/-- The value `digits · 10 ^ exponent`. -/
structure Decimal where
  digits : Nat
  exponent : Int
  deriving DecidableEq

def digitsOf (n : Nat) : List Char := Nat.toDigits 10 n

namespace Decimal

/-- Ten to the power `e` as a numerator and a denominator. -/
def powerOfTen (e : Int) : Nat × Nat :=
  if e < 0 then (1, Nat.pow 10 e.natAbs) else (Nat.pow 10 e.natAbs, 1)

/-- The number nearest to a decimal. Decimals far outside the range of magnitudes are settled
without their power of ten. -/
def round (negative : Bool) (d : Decimal) : Binary64 :=
  if d.digits = 0 then .zero negative
  else if 400 < d.exponent then .infinite negative
  else if d.exponent + (digitsOf d.digits).length < -400 then .zero negative
  else
    let (up, down) := powerOfTen d.exponent
    .ofQuotient negative (d.digits * up * Binary64.one) down

/-- The same value without zeros at the end of its digits, looking at most `fuel` zeros far. -/
def stripZeros : Nat → Decimal → Decimal
  | 0, d => d
  | fuel + 1, d =>
    if d.digits ≠ 0 ∧ d.digits % 10 = 0 then stripZeros fuel ⟨d.digits / 10, d.exponent + 1⟩ else d

/-- The exponent `p` with `10 ^ (p - 1) ≤ units · 2⁻¹⁰⁷⁴ < 10 ^ p`, for positive `units`: the
number of digits in front of the point, or minus the number of zeros behind it. -/
def pointOf (units : Nat) : Int :=
  if Binary64.one ≤ units then (digitsOf (units / Binary64.one)).length
  else (digitsOf (units * Nat.pow 10 324 / Binary64.one)).length - 324

/-- The whole multiple of `10 ^ exponent` just below a magnitude. -/
def floorOn (exponent : Int) (units : Nat) : Nat :=
  let (up, down) := powerOfTen exponent
  units * down / (Binary64.one * up)

/-- Whether the multiple of `10 ^ exponent` just below a magnitude is nearer to it than the next
one. -/
def floorIsNearer (exponent : Int) (units : Nat) : Bool :=
  let (up, down) := powerOfTen exponent
  2 * (units * down % (Binary64.one * up)) < Binary64.one * up

def readsBack (m : Magnitude) (d : Decimal) : Bool := round false d == .finite false m

/-- The decimal of `count` digits nearest to a magnitude among those that read back as it. -/
def withDigits (m : Magnitude) (count : Nat) : Option Decimal :=
  let exponent := pointOf m.units - count
  let below : Decimal := ⟨floorOn exponent m.units, exponent⟩
  let above : Decimal := ⟨floorOn exponent m.units + 1, exponent⟩
  let ordered := if floorIsNearer exponent m.units then [below, above] else [above, below]
  ordered.find? (readsBack m)

/-- All the digits of a magnitude. -/
def exact (m : Magnitude) : Decimal := ⟨m.units * Nat.pow 5 1074, -1074⟩

/-- The decimal with the fewest digits that reads back as `m`. -/
def shortest (m : Magnitude) : Decimal :=
  if m.units = 0 then ⟨0, 0⟩
  else
    match (List.range' 1 17).findSome? (withDigits m) with
    | some d => stripZeros 20 d
    | none => exact m

/-- Digits with the point in place: never an exponent, and no point after a whole number. -/
def positional (d : Decimal) : List Char :=
  let digits := digitsOf d.digits
  if d.digits = 0 then ['0']
  else if 0 ≤ d.exponent then digits ++ List.replicate d.exponent.natAbs '0'
  else
    let places := d.exponent.natAbs
    if places < digits.length then
      digits.take (digits.length - places) ++ '.' :: digits.drop (digits.length - places)
    else '0' :: '.' :: (List.replicate (places - digits.length) '0' ++ digits)

end Decimal

end ODataQuery
