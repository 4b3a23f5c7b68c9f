import ODataQuery.Guid

/-! Notices: what parts of an application tell each other, and the board on which they are posted. The
board keeps a number of the newest notices; a reader who is further behind loses the others. -/
namespace ODataQuery

inductive Notice
  /-- A list shows new rows. -/
  | dataBound (entitySet : String) (count : Option Int) (rows : Nat)
  | filtersChanged (entitySet : String) (filters : List Guid)
  | dialogClosed (name : String)
  deriving DecidableEq

/-- A board and its readers, each with the number of notices that are behind him. -/
structure NoticeBoard where
  capacity : Nat
  posted : List Notice := []
  readers : List (String × Nat) := []

namespace NoticeBoard

/-- A board that keeps at least so many notices; the number is rounded up to a power of two. -/
def ofCapacity (capacity : Nat) : NoticeBoard := { capacity := (max capacity 1).nextPowerOfTwo }

/-- What is kept when nothing else is said. -/
def defaultCapacity : Nat := 256

def readerCount (b : NoticeBoard) : Nat := b.readers.length

/-- Posts a notice and says how many readers it reaches. Without readers it is lost. -/
def post (b : NoticeBoard) (notice : Notice) : NoticeBoard × Nat :=
  if b.readers.isEmpty then (b, 0)
  else ({ b with posted := b.posted ++ [notice] }, b.readerCount)

def leave (b : NoticeBoard) (reader : String) : NoticeBoard :=
  { b with readers := b.readers.filter (·.1 ≠ reader) }

def join (b : NoticeBoard) (reader : String) : NoticeBoard :=
  let without := b.leave reader
  { without with readers := without.readers ++ [(reader, b.posted.length)] }

inductive Reading
  | notice (notice : Notice)
  /-- So many notices were lost; the next reading gives the oldest one that is kept. -/
  | lost (count : Nat)
  | nothing
  deriving DecidableEq

def moveTo (reader : String) (place : Nat) (readers : List (String × Nat)) : List (String × Nat) :=
  readers.map fun r => if r.1 = reader then (r.1, place) else r

def read (b : NoticeBoard) (reader : String) : NoticeBoard × Reading :=
  match b.readers.lookup reader with
  | none => (b, .nothing)
  | some place =>
    let oldest := b.posted.length - b.capacity
    if place < oldest then
      ({ b with readers := moveTo reader oldest b.readers }, .lost (oldest - place))
    else
      match b.posted[place]? with
      | some notice => ({ b with readers := moveTo reader (place + 1) b.readers }, .notice notice)
      | none => (b, .nothing)

end NoticeBoard

end ODataQuery
