import ODataQuery.Clause.Basic
import ODataQuery.Sort
import ODataQuery.Query.Options

/-! What a list on the screen asks for: its filters, its order and its page. -/
namespace ODataQuery

structure Listing where
  filters : Collection := .empty
  sorts : List SortKey := []
  page : Nat := 0
  pageSize : Option Nat := none
  count : Bool := true
  expand : List String := []

namespace Listing

def highestSkip : Nat := 4294967295

/-- The rows in front of the page; there is a greatest number of them. -/
def skipped (l : Listing) (size : Nat) : Nat := min (l.page * size) highestSkip

def options (l : Listing) (now : Instant) (resolver : Resolver) : QueryOptions :=
  { filter := (Compiler.mk now (some resolver)).compile l.filters
    orderBy := SortKey.compile (some resolver) l.sorts
    top := l.pageSize
    skip := l.pageSize.map l.skipped
    count := l.count
    expand := l.expand }

def rewound (l : Listing) : Listing := { l with page := 0 }

end Listing

end ODataQuery
