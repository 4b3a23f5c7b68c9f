import ODataQuery.Query.Options
import ODataQuery.Url.Basic

/-! The address of a query: the service root and the entity set, joined by one slash, with the options
as its query. -/
namespace ODataQuery

namespace QueryOptions

/-- Service root and entity set with exactly one slash between them. -/
def joined (base entitySet : String) : String :=
  String.ofList (Text.dropEndWhile (· = '/') base.toList) ++ "/" ++
    String.ofList (entitySet.toList.dropWhile (· = '/'))

/-- The address, or a text that says why the root and the set make none. A query in the root gives
way to the options. -/
def address (o : QueryOptions) (domains : Url.Domains) (base entitySet : String) :
    Except String Url :=
  match Url.parse domains (joined base entitySet) with
  | .error e => .error (joined base entitySet ++ ": " ++ e.message)
  | .ok url =>
    .ok (url.withQuery (if o.queryString.isEmpty then none else some o.queryString))

end QueryOptions

end ODataQuery
