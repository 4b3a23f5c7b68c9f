import ODataQuery.Number.Decimal

/-! The text of numbers: the positional form that is written for them, and the forms that are read,
which are an optional sign and either digits with an optional point and exponent or one of the words
inf, infinity and nan. Whole numbers of limited size are read with an optional sign as well. -/
namespace ODataQuery

def digitValue? (c : Char) : Option Nat :=
  if '0' ≤ c ∧ c ≤ '9' then some (c.toNat - '0'.toNat) else none

def isDigit (c : Char) : Bool := (digitValue? c).isSome

/-- The value of a run of digits; other characters count as nothing. -/
def valueOfDigits (cs : List Char) : Nat :=
  cs.foldl (fun n c => match digitValue? c with | some d => 10 * n + d | none => n) 0

def natOfDigits? (cs : List Char) : Option Nat :=
  if cs ≠ [] ∧ cs.all isDigit then some (valueOfDigits cs) else none

/-- Splits off a leading sign; the flag says whether it is a minus. -/
def splitSign : List Char → Bool × List Char
  | '-' :: rest => (true, rest)
  | '+' :: rest => (false, rest)
  | cs => (false, cs)

/-- A whole number at most `bound`, written with digits and perhaps a plus sign. -/
def natWithin? (bound : Nat) (s : String) : Option Nat := do
  let digits := match s.toList with
    | '+' :: rest => rest
    | cs => cs
  let n ← natOfDigits? digits
  if n ≤ bound then some n else none

/-- A whole number from `low` to `high`, written with digits and perhaps a sign. -/
def intWithin? (low high : Int) (s : String) : Option Int := do
  let (negative, digits) := splitSign s.toList
  let n ← natOfDigits? digits
  let z : Int := if negative then -(n : Int) else n
  if low ≤ z ∧ z ≤ high then some z else none

namespace Binary64

/-- The positional text of a number; the infinities and NaN have words. -/
def text : Binary64 → String
  | nan => "NaN"
  | infinite negative => if negative then "-inf" else "inf"
  | finite negative m =>
    String.ofList ((if negative then ['-'] else []) ++ (Decimal.shortest m).positional)

def exponentOf? (cs : List Char) : Option Int := do
  let (negative, digits) := splitSign cs
  let n ← natOfDigits? digits
  some (if negative then -(n : Int) else n)

/-- Digits with an optional point and exponent; at least one digit stands beside the point. -/
def decimalOf? (cs : List Char) : Option Decimal := do
  let whole := cs.takeWhile isDigit
  let afterWhole := cs.dropWhile isDigit
  let (fraction, rest) := match afterWhole with
    | '.' :: more => (more.takeWhile isDigit, more.dropWhile isDigit)
    | _ => ([], afterWhole)
  if whole.isEmpty && fraction.isEmpty then none
  else
    let exponent ← match rest with
      | [] => some 0
      | c :: more => if c = 'e' ∨ c = 'E' then exponentOf? more else none
    some ⟨valueOfDigits (whole ++ fraction), exponent - fraction.length⟩

def ofText? (s : String) : Option Binary64 :=
  let (negative, rest) := splitSign s.toList
  let word := rest.map Char.toLower
  if word = "nan".toList then some nan
  else if word = "inf".toList ∨ word = "infinity".toList then some (infinite negative)
  else (decimalOf? rest).map (Decimal.round negative)

end Binary64

end ODataQuery
