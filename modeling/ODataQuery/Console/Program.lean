import ODataQuery.Config.Stored
import ODataQuery.Console.Help
import ODataQuery.Console.Table
import ODataQuery.Query.Exchange

/-! The program: what a command line does in an environment, as texts for the two outputs, an exit code
and perhaps a file that is written. -/
namespace ODataQuery

structure Environment (R : Type) where
  bindings : List (String × String)
  /-- The home directory of the account, for when no variable names one. -/
  accountHome : Option String
  /-- The texts of the files that are there, by their paths. -/
  files : List (String × String)
  now : Instant
  network : Network R

structure Outcome where
  exitCode : Nat := 0
  output : String := ""
  errors : String := ""
  /-- The path and the text of a file to be written. -/
  written : Option (String × String) := none
  deriving DecidableEq

namespace Environment

def value? (env : Environment R) (name : String) : Option String := env.bindings.lookup name

def file? (env : Environment R) (path : String) : Option String := env.files.lookup path

/-- A path inside a directory; a directory without name is the current one. -/
def inside (directory name : String) : String :=
  if directory.isEmpty then name
  else if directory.toList.getLast? = some '/' then directory ++ name
  else directory ++ "/" ++ name

def home? (env : Environment R) : Option String :=
  ((env.value? "HOME").filter fun h => !h.isEmpty).or env.accountHome

def configPath (env : Environment R) : Except ConfigFault String :=
  match env.value? "ODQ_CONFIG", env.value? "XDG_CONFIG_HOME", env.home? with
  | some path, _, _ => .ok path
  | none, some directory, _ => .ok (inside directory "odq/config.toml")
  | none, none, some home => .ok (inside home ".config/odq/config.toml")
  | none, none, none => .error .noDirectory

end Environment

namespace Program

def line (s : String) : String := s ++ "\n"

def said (s : String) : Outcome := { output := s }

def loadConfig (env : Environment R) : Except CommandError Config := do
  let path ← env.configPath.mapError .config
  (Config.load (env.file? path)).mapError .config

def url (env : Environment R) (i : Invocation) (args : QueryArgs) : Except CommandError Outcome := do
  let config ← loadConfig env
  let plan ← args.plan config i.serviceRoot env.now
  let address ← (plan.address env.network.domains).mapError .query
  if i.json then
    return said (line (Json.object
      [("url", .string address.text), ("filter", .string plan.options.filter),
       ("orderby", .string plan.options.orderBy)]).pretty)
  return said (line address.text)

def query (env : Environment R) (i : Invocation) (args : QueryArgs) : Except CommandError Outcome := do
  let config ← loadConfig env
  let plan ← args.plan config i.serviceRoot env.now
  let exchange :=
    Exchange.run env.network {} .never Except.ok plan.serviceRoot plan.entitySet plan.options
  let envelope ← exchange.outcome.mapError .query
  if i.json then return said (line envelope.toJson.pretty)
  else if i.quiet then return {}
  else return said (Table.render i.colors envelope)

def settingsText (c : Config) : String :=
  "Settings:\n" ++
    (match c.baseAddress with
     | some address => line ("  base_address: " ++ address)
     | none => "") ++
    (match c.pageSize with
     | some size => line ("  page_size: " ++ QueryOptions.natText size)
     | none => "") ++
    line ("  timeout_secs: " ++ QueryOptions.natText c.timeout) ++
    (if c.alternates.isEmpty then ""
     else
       "\n[alternate_base_addresses]\n" ++
         String.join (c.alternates.entries.map fun e => line ("  " ++ e.1 ++ ": " ++ e.2)))

def heading (colors : Bool) : String :=
  if colors then "\x1b[1m\x1b[32mConfiguration\x1b[39m\x1b[0m" else "Configuration"

def boolText (b : Bool) : String := if b then "true" else "false"

def configShow (env : Environment R) (i : Invocation) : Except CommandError Outcome := do
  let config ← loadConfig env
  let path ← env.configPath.mapError .config
  let there := (env.file? path).isSome
  if i.json then
    return said (line (Json.object
      [("path", .string path), ("exists", .bool there), ("config", config.toJson)]).pretty)
  else if i.quiet then return {}
  else
    return said
      (heading i.colors ++ "\n\nFile: " ++ line path ++ "Exists: " ++ boolText there ++ "\n\n" ++
        if there then settingsText config
        else
          "(No config file exists. Run 'odq config set base_address <url>' to create one.)\n")

def configPath (env : Environment R) (i : Invocation) : Except CommandError Outcome := do
  let path ← env.configPath.mapError .config
  if i.json then
    return said (line (Json.object
      [("path", .string path), ("exists", .bool (env.file? path).isSome)]).pretty)
  return said (line path)

/-- Changes a setting; an empty path names no file that could be written. -/
def configSet (env : Environment R) (i : Invocation) (key value : String) :
    Except CommandError Outcome := do
  let path ← env.configPath.mapError .config
  let text ← (Config.change (env.file? path) key value).mapError .config
  if path.isEmpty then throw (.config (.notWritten "No such file or directory (os error 2)"))
  let report :=
    if i.json then
      line (Json.object
        [("status", .string "success"), ("key", .string key), ("value", .string value),
         ("path", .string path)]).pretty
    else if i.quiet then ""
    else line ("Set " ++ key ++ " = " ++ value)
  return { output := report, written := some (path, text) }

def execute (env : Environment R) (i : Invocation) : Except CommandError Outcome :=
  match i.command with
  | .query args => query env i args
  | .url args => url env i args
  | .config none | .config (some .showAll) => configShow env i
  | .config (some .path) => configPath env i
  | .config (some (.set key value)) => configSet env i key value
  | .completions shell => .ok (said (CommandLine.completionScript shell))

/-- The report of an error, and the exit code for its kind. -/
def failure (json : Bool) (e : CommandError) : Outcome :=
  { exitCode := e.exitCode
    errors :=
      if json then
        line (Json.object
          [("error", .object
            [("code", .string e.code), ("message", .string e.shown),
             ("status", .ofOption Json.ofNat e.statusCode?)])]).compact
      else line ("Error: " ++ e.shown) }

/-- What is done in place of a command. Help that was asked for is no error. -/
def usage (serviceRoot : Option String) (e : CommandLine.UsageError) : Outcome :=
  let root := serviceRoot.getD ""
  match e with
  | .help page => said (page.help root)
  | .helpOfHelp => said CommandLine.Page.helpOfHelp
  | .version page => said page.version
  | .nothingGiven => { exitCode := 2, errors := CommandLine.Page.root.help root }
  | other => { exitCode := 2, errors := other.message }

def run (env : Environment R) (args : List String) : Outcome :=
  let serviceRoot := env.value? "ODQ_BASE_URL"
  match CommandLine.read serviceRoot args with
  | .error e => usage serviceRoot e
  | .ok invocation =>
    match execute env invocation with
    | .ok outcome => outcome
    | .error e => failure invocation.json e

end Program

end ODataQuery
