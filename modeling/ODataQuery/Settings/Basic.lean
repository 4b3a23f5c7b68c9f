import ODataQuery.Settings.Addresses
import ODataQuery.Json.Shape

/-! Settings: where the service is found, and how many rows make a page. -/
namespace ODataQuery

structure Settings where
  baseAddress : String
  alternates : Addresses := {}
  pageSize : Option Nat := none
  deriving DecidableEq

namespace Settings

/-- The service root of a backend; without a backend, or for an unknown one, the base address. -/
def resolve (s : Settings) (backend : Option String) : String :=
  (backend.bind s.alternates.find?).getD s.baseAddress

def toJson (s : Settings) : Json :=
  .object
    ([("base_address", .string s.baseAddress)] ++
      (if s.alternates.isEmpty then []
       else [("alternate_base_addresses", s.alternates.toJson)]) ++
      Json.memberOf "page_size" Json.ofNat s.pageSize)

def ofJson? (j : Json) : Option Settings := do
  match ← j.entries? ["base_address", "alternate_base_addresses", "page_size"] with
  | [baseAddress, alternates, pageSize] =>
    some
      { baseAddress := ← baseAddress.required Json.asString?
        alternates := ← alternates.orElse Addresses.ofJson? {}
        pageSize := ← pageSize.optionalOrElse (Json.asNat? 4294967295) }
  | _ => none

end Settings

end ODataQuery
