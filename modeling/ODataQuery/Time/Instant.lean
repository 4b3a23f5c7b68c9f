import ODataQuery.Time.Calendar

/-! Instants of universal time to the nanosecond, in the years -262143 to 262142. A leap second is
the second before it with a billion nanoseconds or more. -/
namespace ODataQuery

namespace Instant

/-- The second with which the year -262143 begins, counted from 1970. -/
def firstSecond : Int := (Date.mk (-262143) 1 1).dayNumber * 86400

/-- The second with which the year 262142 ends. -/
def lastSecond : Int := (Date.mk 262142 12 31).dayNumber * 86400 + 86399

def Representable (seconds : Int) (nanos : Nat) : Prop :=
  firstSecond ≤ seconds ∧ seconds ≤ lastSecond ∧ nanos < 2000000000

instance (seconds : Int) (nanos : Nat) : Decidable (Representable seconds nanos) :=
  inferInstanceAs (Decidable (_ ∧ _))

end Instant

structure Instant where
  seconds : Int
  nanos : Nat
  representable : Instant.Representable seconds nanos
  deriving DecidableEq

namespace Instant

def ofSeconds? (seconds : Int) (nanos : Nat) : Option Instant :=
  if h : Representable seconds nanos then some ⟨seconds, nanos, h⟩ else none

/-- The instant so many milliseconds after the start of 1970. -/
def ofMillis? (millis : Int) : Option Instant :=
  ofSeconds? (millis / 1000) ((millis % 1000).toNat * 1000000)

def ofDate? (date : Date) (secondOfDay nanos : Nat) : Option Instant :=
  if date.Valid ∧ secondOfDay < 86400 then
    ofSeconds? (date.dayNumber * 86400 + secondOfDay) nanos
  else none

def date (t : Instant) : Date := Date.ofDayNumber (t.seconds / 86400)

def secondOfDay (t : Instant) : Nat := (t.seconds % 86400).toNat

/-- Moves by whole seconds. Out of a leap second the way forward starts at the second before it and
the way back at the second after it. -/
def addSeconds? (t : Instant) (delta : Int) : Option Instant :=
  if 1000000000 ≤ t.nanos ∧ 0 < delta then ofSeconds? (t.seconds + delta) (t.nanos - 1000000000)
  else if 1000000000 ≤ t.nanos ∧ delta < 0 then
    ofSeconds? (t.seconds + 1 + delta) (t.nanos - 1000000000)
  else ofSeconds? (t.seconds + delta) t.nanos

def addMonths? (t : Instant) (months : Int) : Option Instant :=
  ofDate? (t.date.addMonths months) t.secondOfDay t.nanos

/-- The same wall-clock reading at an offset of `offset` seconds east, as universal time. -/
def subOffset? (t : Instant) (offset : Int) : Option Instant :=
  ofSeconds? (t.seconds - offset) t.nanos

end Instant

end ODataQuery
