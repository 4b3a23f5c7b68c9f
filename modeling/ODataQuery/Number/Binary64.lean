/-! Double-precision numbers as exact values. A finite magnitude is a whole number of units of
2⁻¹⁰⁷⁴; the representable ones are those whose units end in zeros below their 53 leading bits.
Every number comes out of one rounding of an exact quotient, to nearest with ties to even. -/
namespace ODataQuery

namespace Binary64

/-- The distance between neighbouring representable magnitudes at `units`. -/
def spacing (units : Nat) : Nat := Nat.pow 2 (units.log2 - 52)

def Representable (units : Nat) : Prop := units.log2 < 2098 ∧ units % spacing units = 0

instance (units : Nat) : Decidable (Representable units) := inferInstanceAs (Decidable (_ ∧ _))

theorem representable_zero : Representable 0 := by decide

/-- The multiple of the spacing nearest to `numerator / denominator`, an exact half going to the
even multiple. -/
def roundQuotient (numerator denominator : Nat) : Nat :=
  let step := spacing (numerator / denominator)
  let whole := numerator / (denominator * step)
  let twiceRest := 2 * (numerator % (denominator * step))
  step *
    (if twiceRest < denominator * step then whole
    else if denominator * step < twiceRest then whole + 1
    else whole + whole % 2)

/-- How many units make one. -/
def one : Nat := Nat.pow 2 1074

end Binary64

/-- A finite magnitude, in units of 2⁻¹⁰⁷⁴. -/
structure Magnitude where
  units : Nat
  representable : Binary64.Representable units
  deriving DecidableEq

/-- A double-precision number; all NaNs are one. -/
inductive Binary64
  | nan
  | infinite (negative : Bool)
  | finite (negative : Bool) (magnitude : Magnitude)
  deriving DecidableEq

namespace Binary64

/-- `units` with a sign, or infinity when they are past the largest magnitude. -/
def ofUnits (negative : Bool) (units : Nat) : Binary64 :=
  if h : Representable units then finite negative ⟨units, h⟩ else infinite negative

def ofQuotient (negative : Bool) (numerator denominator : Nat) : Binary64 :=
  ofUnits negative (roundQuotient numerator denominator)

def zero (negative : Bool) : Binary64 := finite negative ⟨0, representable_zero⟩

def ofNat (n : Nat) : Binary64 := ofQuotient false (n * one) 1

def ofInt (z : Int) : Binary64 := ofQuotient (decide (z < 0)) (z.natAbs * one) 1

def neg : Binary64 → Binary64
  | nan => nan
  | infinite s => infinite (!s)
  | finite s m => finite (!s) m

def isFinite : Binary64 → Bool
  | finite _ _ => true
  | _ => false

def isZero : Binary64 → Bool
  | finite _ m => m.units == 0
  | _ => false

/-- Equality of values: the two zeros are equal, NaN equals nothing. -/
def same : Binary64 → Binary64 → Bool
  | infinite s, infinite t => s == t
  | finite s m, finite t n => m.units == n.units && (s == t || m.units == 0)
  | _, _ => false

/-- The product of finite numbers; anything else multiplies to NaN. -/
def mul : Binary64 → Binary64 → Binary64
  | finite s m, finite t n => ofQuotient (s != t) (m.units * n.units) one
  | _, _ => nan

/-- The quotient of finite numbers with a divisor other than zero; all else divides to NaN. -/
def div : Binary64 → Binary64 → Binary64
  | finite s m, finite t n =>
    if n.units = 0 then nan else ofQuotient (s != t) (m.units * one) n.units
  | _, _ => nan

theorem same_self_iff (x : Binary64) : x.same x = true ↔ x ≠ nan := by
  cases x <;> simp [same]

theorem ofUnits_units (m : Magnitude) (s : Bool) : ofUnits s m.units = finite s m := by
  simp [ofUnits, m.representable]

end Binary64

end ODataQuery
