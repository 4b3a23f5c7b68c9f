import ODataQuery.Time.Instant
import ODataQuery.Number.Text
import ODataQuery.Text.Blank
import ODataQuery.Text.Case

/-! Readers of timestamps: the strict form with an offset, a relaxed one that also allows blanks, the
local forms that are taken as universal time, and dates given as milliseconds. -/
namespace ODataQuery.Time

/-- A step over the front of a text. -/
abbrev Reader := StateT (List Char) Option

namespace Reader

def number (low high : Nat) : Reader Nat := fun cs =>
  let digits := (cs.takeWhile isDigit).take high
  if low ≤ digits.length then some (valueOfDigits digits, cs.drop digits.length) else none

def char (c : Char) : Reader Unit
  | [] => none
  | d :: rest => if c = d then some ((), rest) else none

def blanks : Reader Unit := fun cs => some ((), cs.dropWhile Text.isBlank)

/-- A number of at most two digits after any blanks, within bounds. -/
def twoDigits (low high : Nat) : Reader Nat := do
  blanks
  let n ← number 1 2
  if low ≤ n ∧ n ≤ high then pure n else failure

/-- Exactly two digits, within bounds. -/
def bothDigits (low high : Nat) : Reader Nat := do
  let n ← number 2 2
  if low ≤ n ∧ n ≤ high then pure n else failure

/-- A year of at most four digits, or of any number of digits after a sign. -/
def signedYear : Reader Int := do
  blanks
  match ← get with
  | '-' :: rest => do
    set rest
    let n ← number 1 rest.length
    pure (-(n : Int))
  | '+' :: rest => do
    set rest
    let n ← number 1 rest.length
    pure n
  | _ => do
    let n ← number 1 4
    pure n

/-- A fraction of a second behind its point, in nanoseconds; digits past the ninth are dropped. No
point means no fraction. -/
def fraction : Reader Nat := fun cs =>
  match cs with
  | '.' :: rest =>
    let digits := (rest.takeWhile isDigit).take 9
    if digits.isEmpty then none
    else some (valueOfDigits digits * Nat.pow 10 (9 - digits.length), rest.dropWhile isDigit)
  | _ => some (0, cs)

/-- An offset from universal time in seconds: Z, or a sign, two digits of hours, what `separator`
takes and two digits of minutes. -/
def offset (separator : Reader Unit) : Reader Int := do
  match ← get with
  | [] => failure
  | c :: rest => do
    set rest
    if c = 'Z' ∨ c = 'z' then pure 0
    else if c = '+' ∨ c = '-' ∨ c = '−' then do
      let hours ← number 2 2
      separator
      let minutes ← bothDigits 0 59
      let size : Int := hours * 3600 + minutes * 60
      pure (if c = '+' then size else -size)
    else failure

/-- The letter T or a blank between date and time. -/
def dateTimeMark : Reader Unit := do
  match ← get with
  | c :: rest => if c = 'T' ∨ c = 't' ∨ c = ' ' then set rest else failure
  | [] => failure

def all (r : Reader α) (cs : List Char) : Option α := do
  let (a, rest) ← r cs
  if rest.isEmpty then some a else none

end Reader

open Reader

def clock? (date : Date) (hour minute second nanos : Nat) : Option Instant :=
  if second = 60 then Instant.ofDate? date (hour * 3600 + minute * 60 + 59) (1000000000 + nanos)
  else Instant.ofDate? date (hour * 3600 + minute * 60 + second) nanos

/-- The form with four digits of year, two of everything else and an offset below a day. -/
def strict : Reader (Option Instant) := do
  let year ← number 4 4
  char '-'
  let month ← bothDigits 1 12
  char '-'
  let day ← bothDigits 1 31
  dateTimeMark
  let hour ← bothDigits 0 23
  char ':'
  let minute ← bothDigits 0 59
  char ':'
  let second ← bothDigits 0 60
  let nanos ← fraction
  let offset ← offset (char ':')
  pure do
    guard (offset.natAbs ≤ (23 * 60 + 59) * 60)
    let t ← clock? ⟨year, month, day⟩ hour minute second nanos
    t.subOffset? offset

def strict? (s : String) : Option Instant := (Reader.all strict s.toList).join

def looseDate : Reader Date := do
  let year ← signedYear
  char '-'
  let month ← twoDigits 1 12
  char '-'
  let day ← twoDigits 1 31
  pure ⟨year, month, day⟩

/-- A timestamp with an offset in which numbers may be short and blanks may stand around them; the
offset may be the word UTC. -/
def relaxed : Reader (Option Instant) := do
  blanks
  let year ← signedYear
  blanks
  char '-'
  let month ← twoDigits 1 12
  blanks
  char '-'
  let day ← twoDigits 1 31
  dateTimeMark
  let hour ← twoDigits 0 23
  blanks
  char ':'
  let minute ← twoDigits 0 59
  blanks
  char ':'
  let second ← twoDigits 0 60
  let nanos ← fraction
  blanks
  let rest ← get
  let offset ←
    if (rest.take 3).map Char.toLower = ['u', 't', 'c'] then do
      set (rest.drop 3)
      pure 0
    else offset (fun cs => some ((), cs.dropWhile fun c => c = ':' ∨ Text.isBlank c))
  blanks
  pure do
    guard (offset.natAbs < 86400)
    let t ← clock? ⟨year, month, day⟩ hour minute second nanos
    t.subOffset? offset

def relaxed? (s : String) : Option Instant := (Reader.all relaxed s.toList).join

/-- A date, a mark and a time to the second with a fraction. -/
def localTime (mark : Reader Unit) : Reader (Option Instant) := do
  let date ← looseDate
  mark
  let hour ← twoDigits 0 23
  char ':'
  let minute ← twoDigits 0 59
  char ':'
  let second ← twoDigits 0 60
  let nanos ← fraction
  pure (clock? date hour minute second nanos)

def localMinute : Reader (Option Instant) := do
  let date ← looseDate
  char 'T'
  let hour ← twoDigits 0 23
  char ':'
  let minute ← twoDigits 0 59
  pure (clock? date hour minute 0 0)

def localDate : Reader (Option Instant) := do
  let date ← looseDate
  pure (clock? date 0 0 0 0)

/-- The text between the marks of a date in milliseconds. -/
def millisBody? (cs : List Char) : Option (List Char) :=
  let opening := "/Date(".toList
  let closing := ")/".toList
  if opening.isPrefixOf cs ∧ closing.isSuffixOf (cs.drop opening.length) then
    some ((cs.drop opening.length).take (cs.length - opening.length - closing.length))
  else none

/-- The milliseconds of a date such as `/Date(1709287200000+0100)/`: the body up to a sign that is not
its first character. The offset behind it changes nothing. -/
def millis? (cs : List Char) : Option Int := do
  match ← millisBody? cs with
  | [] => none
  | first :: rest =>
    let digits := first :: rest.takeWhile fun c => !(c = '+' ∨ c = '-')
    intWithin? (-9223372036854775808) 9223372036854775807 (String.ofList digits)

/-- Reads a timestamp in any of the forms: milliseconds, RFC 3339, local date and time, local date.
A text with readable milliseconds is not tried as anything else. -/
def parse? (s : String) : Option Instant :=
  let cs := Text.trimChars s.toList
  match millis? cs with
  | some millis => Instant.ofMillis? millis
  | none =>
    [strict, localTime (char 'T'), localTime blanks, localMinute, localDate].findSome? fun form =>
      (Reader.all form cs).join

end ODataQuery.Time
