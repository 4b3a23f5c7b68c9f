import ODataQuery.Time.Instant
import ODataQuery.Number.Decimal

/-! The written form of instants: date, T, time and Z, with whole seconds or with the fewest of 0,
3, 6 or 9 fraction digits that hold the value. -/
namespace ODataQuery

namespace Instant

/-- The digits of `n` with zeros in front, `width` at least. -/
def padded (width n : Nat) : List Char :=
  let digits := digitsOf n
  List.replicate (width - digits.length) '0' ++ digits

/-- Four digits for the years 0 to 9999; any other year has a sign and at least four digits. -/
def yearText (year : Int) : List Char :=
  if 0 ≤ year ∧ year ≤ 9999 then padded 4 year.natAbs
  else (if year < 0 then '-' else '+') :: padded 4 year.natAbs

def fractionText (nanos : Nat) : List Char :=
  if nanos = 0 then []
  else if nanos % 1000000 = 0 then '.' :: padded 3 (nanos / 1000000)
  else if nanos % 1000 = 0 then '.' :: padded 6 (nanos / 1000)
  else '.' :: padded 9 nanos

/-- Everything in front of the fraction. A leap second is written as second 60. -/
def wholeText (t : Instant) : List Char :=
  let date := t.date
  let time := t.secondOfDay
  let second := time % 60 + t.nanos / 1000000000
  yearText date.year ++ '-' :: (padded 2 date.month ++ '-' :: (padded 2 date.day ++ 'T' ::
    (padded 2 (time / 3600) ++ ':' :: (padded 2 (time / 60 % 60) ++ ':' :: padded 2 second))))

/-- The form with whole seconds; a fraction is cut off. -/
def secondsText (t : Instant) : String := String.ofList (t.wholeText ++ ['Z'])

/-- The form with as many fraction digits as the value needs. -/
def text (t : Instant) : String :=
  String.ofList (t.wholeText ++ fractionText (t.nanos % 1000000000) ++ ['Z'])

end Instant

end ODataQuery
