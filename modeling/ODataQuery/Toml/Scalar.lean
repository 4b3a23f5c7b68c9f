import ODataQuery.Toml.Basic
import ODataQuery.Toml.Quoted
import ODataQuery.Time.Reader

/-! Numbers, truth values, dates and times in TOML. -/
namespace ODataQuery.Toml

open Time (Reader)
open Time.Reader (number char bothDigits fraction)
open Json.Token (hexValue?)

/-- A run of digits, between two of which a bar may stand, and what follows it. -/
def digitRun (p : Char → Bool) : List Char → List Char × List Char
  | '_' :: d :: rest =>
    if p d then (d :: (digitRun p rest).1, (digitRun p rest).2) else ([], '_' :: d :: rest)
  | c :: rest => if p c then (c :: (digitRun p rest).1, (digitRun p rest).2) else ([], c :: rest)
  | [] => ([], [])

def digits? (p : Char → Bool) (cs : List Char) : Option (List Char × List Char) :=
  match cs with
  | c :: _ => if p c then some (digitRun p cs) else none
  | [] => none

def integerOf? (z : Int) : Option Toml :=
  if -9223372036854775808 ≤ z ∧ z ≤ 9223372036854775807 then some (integer z) else none

def based? (base : Nat) (cs : List Char) : Option (Toml × List Char) := do
  let isBaseDigit (c : Char) : Bool := (hexValue? c).any (· < base)
  let (digits, rest) ← digits? isBaseDigit cs
  let n := (digits.filterMap hexValue?).foldl (fun n d => base * n + d) 0
  some (← integerOf? n, rest)

/-- A decimal number, whole or real. Whole parts have no leading zero. -/
def decimal? (cs : List Char) : Option (Toml × List Char) := do
  let (negative, unsigned) := splitSign cs
  let (whole, afterWhole) ← digits? isDigit unsigned
  if whole.head? = some '0' ∧ 1 < whole.length then none
  let (fraction, afterFraction) ← match afterWhole with
    | '.' :: rest => digits? isDigit rest
    | rest => some ([], rest)
  let (exponent, rest) ← match afterFraction with
    | c :: rest =>
      if c = 'e' ∨ c = 'E' then do
        let (down, digits) := splitSign rest
        let (digits, left) ← digits? isDigit digits
        let size : Int := valueOfDigits digits
        some (some (if down then -size else size), left)
      else some (none, c :: rest)
    | [] => some (none, [])
  if fraction.isEmpty ∧ exponent.isNone then
    let n : Int := valueOfDigits whole
    some (← integerOf? (if negative then -n else n), rest)
  else
    let value := Decimal.round negative
      ⟨valueOfDigits (whole ++ fraction), exponent.getD 0 - fraction.length⟩
    if value = .infinite false then none else some (real value, rest)

def number? (cs : List Char) : Option (Toml × List Char) :=
  match cs with
  | '0' :: 'x' :: rest => based? 16 rest
  | '0' :: 'o' :: rest => based? 8 rest
  | '0' :: 'b' :: rest => based? 2 rest
  | _ =>
    let (negative, unsigned) := splitSign cs
    match unsigned with
    | 'i' :: 'n' :: 'f' :: rest => some (real (.infinite negative), rest)
    | 'n' :: 'a' :: 'n' :: rest => some (real .nan, rest)
    | _ => decimal? cs

def date : Reader Unit := do
  let year ← number 4 4
  char '-'
  let month ← bothDigits 1 12
  char '-'
  let day ← bothDigits 1 31
  if day ≤ Date.daysInMonth year month then pure () else failure

def clock : Reader Unit := do
  let _ ← bothDigits 0 23
  char ':'
  let _ ← bothDigits 0 59
  char ':'
  let _ ← bothDigits 0 60
  let _ ← fraction

def offset : Reader Unit := do
  match ← get with
  | 'Z' :: rest | 'z' :: rest => set rest
  | c :: rest =>
    if c = '+' ∨ c = '-' then do
      set rest
      let _ ← bothDigits 0 23
      char ':'
      let _ ← bothDigits 0 59
    else failure
  | [] => failure

/-- A date, perhaps with a time and an offset, or a time alone. -/
def dateTime : Reader Unit :=
  (do date
      (do Time.Reader.dateTimeMark; clock; offset <|> pure ()) <|> pure ()) <|> clock

def moment? (cs : List Char) : Option (Toml × List Char) :=
  (dateTime cs).map fun (_, rest) =>
    (Toml.moment (String.ofList (cs.take (cs.length - rest.length))), rest)

def scalar? (cs : List Char) : Option (Toml × List Char) :=
  match cs with
  | 't' :: 'r' :: 'u' :: 'e' :: rest => some (boolean true, rest)
  | 'f' :: 'a' :: 'l' :: 's' :: 'e' :: rest => some (boolean false, rest)
  | _ => ((quoted? cs).map fun (s, rest) => (string (String.ofList s), rest)).or
      ((moment? cs).or (number? cs))

end ODataQuery.Toml
