import ODataQuery.Config.Basic
import ODataQuery.Clause.Basic
import ODataQuery.Expression.Basic
import ODataQuery.Sort
import ODataQuery.Query.Address
import ODataQuery.Query.Error

/-! Plans: what a query on the command line asks of which service. -/
namespace ODataQuery

/-- Why a command fails. -/
inductive CommandError
  | filter (error : FilterError)
  | query (error : QueryError)
  | config (fault : ConfigFault)

namespace CommandError

def message : CommandError → String
  | filter error => "filter error: " ++ error.message
  | query error => "query error: " ++ error.message
  | config fault => "configuration error: " ++ fault.message

def shown : CommandError → String
  | query error => error.localized {}
  | other => other.message

def code : CommandError → String
  | filter _ => "FILTER_ERROR"
  | query error => error.key
  | config _ => "CONFIG_ERROR"

def exitCode : CommandError → Nat
  | filter _ => 1
  | query _ => 2
  | config _ => 5

def statusCode? : CommandError → Option Nat
  | query error => error.statusCode?
  | _ => none

end CommandError

structure QueryArgs where
  entitySet : String
  filter : Option String := none
  sort : List String := []
  top : Option Nat := none
  skip : Option Nat := none
  noCount : Bool := false
  expand : List String := []
  backend : Option String := none
  deriving DecidableEq

structure QueryPlan where
  serviceRoot : String
  entitySet : String
  options : QueryOptions
  deriving DecidableEq

namespace QueryArgs

/-- The clause of a filter expression; a blank one makes none. -/
def filterClause (now : Instant) (expression : String) : Except FilterError String :=
  if Text.isBlankText expression then .ok ""
  else (Expression.parse (Text.trim expression)).map (Compiler.mk now none).compile

/-- The plan of a query. A service root that is given goes before the configured ones, and so does a
number of rows before the page size. -/
def plan (args : QueryArgs) (config : Config) (root : Option String) (now : Instant) :
    Except CommandError QueryPlan := do
  let serviceRoot := root.getD (config.settings.resolve args.backend)
  if Text.isBlankText serviceRoot then throw (.config .noServiceRoot)
  let filter ← (filterClause now (args.filter.getD "")).mapError .filter
  let keys ← (SortKey.parse args.sort).mapError .filter
  return {
    serviceRoot
    entitySet := args.entitySet
    options :=
      { filter
        orderBy := SortKey.compile none keys
        top := args.top.or config.pageSize
        skip := args.skip
        count := !args.noCount
        expand := args.expand } }

end QueryArgs

namespace QueryPlan

def address (p : QueryPlan) (domains : Url.Domains) : Except QueryError Url :=
  (p.options.address domains p.serviceRoot p.entitySet).mapError .badAddress

end QueryPlan

end ODataQuery
