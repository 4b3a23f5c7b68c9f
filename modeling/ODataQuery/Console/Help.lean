import ODataQuery.Console.CommandLine

/-! The texts of the program about itself: pages of help, the version, complaints about arguments, and
completions for shells. -/
namespace ODataQuery.CommandLine

/-- Two columns of text; the second one starts two blanks behind the longest entry of the first. -/
def listing (rows : List (String × String)) : String :=
  let width := (rows.map (·.1.length)).foldl max 0
  String.join (rows.map fun (left, right) =>
    "  " ++ left ++ String.ofList (List.replicate (width - left.length) ' ') ++ "  " ++ right ++ "\n")

namespace Page

def about : Page → String
  | root => "odq - Run filtered, sorted OData collection queries"
  | query => "Query an entity set and print the rows"
  | url => "Print the request URL for a query without sending it"
  | config => "Manage configuration"
  | configShow => "Show current configuration"
  | configSet => "Set a configuration value"
  | configPath => "Show config file path"
  | completions => "Generate shell completions"

def title : Page → String
  | root => "odq"
  | query => "odq query"
  | url => "odq url"
  | config => "odq config"
  | configShow => "odq config show"
  | configSet => "odq config set"
  | configPath => "odq config path"
  | completions => "odq completions"

def helpRow : String × String :=
  ("help", "Print this message or the help of the given subcommand(s)")

/-- The commands behind this one and what they are about. -/
def commandRows : Page → List (String × String)
  | root =>
    [("query", query.about), ("url", url.about), ("config", config.about),
     ("completions", completions.about), helpRow]
  | config =>
    [("show", configShow.about), ("set", configSet.about), ("path", configPath.about), helpRow]
  | _ => []

def wordAbout (word : String) : String :=
  match word with
  | "ENTITY_SET" => "Entity set to query (e.g., \"People\")"
  | "KEY" => "Configuration key (base_address, page_size, timeout_secs, alternate.<name>)"
  | "VALUE" => "Configuration value"
  | _ =>
    "Shell to generate completions for [possible values: bash, zsh, fish, powershell]"

def wordRows (page : Page) : List (String × String) :=
  page.words.map fun w => ("<" ++ w ++ ">", wordAbout w)

/-- Options of the program in front of help and version. `serviceRoot` is what the environment
gives. -/
def sharedRows (serviceRoot : String) : List (String × String) :=
  [("-v, --verbose", "Verbose output (show debug information)"),
   ("-q, --quiet", "Quiet mode (errors only)"),
   ("    --json", "Force JSON output"),
   ("    --no-color", "Disable colors in output"),
   ("    --base-url <BASE_URL>",
    "Override the service root (default: from config) [env: ODQ_BASE_URL=" ++ serviceRoot ++ "]")]

def queryRows : List (String × String) :=
  [("-f, --filter <FILTER>", "Filter expression (e.g., \"Age ge 18 and Name startswith 'A'\")"),
   ("-s, --sort <SORT>", "Sort specification, \"Field\" or \"Field desc\" (repeatable)"),
   ("-t, --top <TOP>", "Maximum number of rows (default: configured page size)"),
   ("    --skip <SKIP>", "Number of rows to skip"),
   ("    --no-count",
    "Leave \x60$count=true\x60 out of the request (the service must still report a count)"),
   ("-x, --expand <EXPAND>", "Navigation property to expand (repeatable)"),
   ("-b, --backend <BACKEND>", "Alternate backend registered in config")]

def optionRows (page : Page) (serviceRoot : String) : List (String × String) :=
  let own := match page with
    | query | url => queryRows
    | _ => []
  own ++ sharedRows serviceRoot ++ [("-h, --help", "Print help"), ("-V, --version", "Print version")]

def usage (page : Page) : String :=
  "Usage: " ++ page.title ++ " [OPTIONS]" ++
    String.join (page.words.map fun w => " <" ++ w ++ ">") ++
    (match page with
     | root => " <COMMAND>"
     | config => " [COMMAND]"
     | _ => "") ++ "\n"

def part (heading : String) (rows : List (String × String)) : String :=
  if rows.isEmpty then "" else "\n" ++ heading ++ ":\n" ++ listing rows

def help (page : Page) (serviceRoot : String) : String :=
  page.about ++ "\n\n" ++ page.usage ++ part "Commands" page.commandRows ++
    part "Arguments" page.wordRows ++ part "Options" (page.optionRows serviceRoot)

def helpOfHelp : String :=
  helpRow.2 ++ "\n\nUsage: odq help [COMMAND]...\n" ++
    part "Arguments" [("[COMMAND]...", "Print help for the subcommand(s)")]

/-- The name and the version; commands have the words that lead to them in their names. -/
def version (page : Page) : String :=
  String.ofList (page.title.toList.map fun c => if c = ' ' then '-' else c) ++ " 0.1.0\n"

end Page

def UsageError.complaint : UsageError → String
  | missingCommand => "a command is missing"
  | unknownCommand word => "unrecognized subcommand '" ++ word ++ "'"
  | unknownArgument text => "unexpected argument '" ++ text ++ "' found"
  | missingWord name => "the required argument <" ++ name ++ "> was not provided"
  | missingValue option => "a value is required for '--" ++ option ++ "'"
  | unknownChoice value => "invalid value '" ++ value ++ "'"
  | badNumber option value => "invalid value '" ++ value ++ "' for '--" ++ option ++ "'"
  | conflict option => "the argument '--" ++ option ++ "' cannot be used here"
  | unneededValue option => "the argument '--" ++ option ++ "' takes no value"
  | help _ | helpOfHelp | version _ | nothingGiven => ""

def UsageError.message (e : UsageError) : String :=
  "error: " ++ e.complaint ++ "\n\nFor more information, try '--help'.\n"

def completionScript (shell : Shell) : String :=
  let words := " ".intercalate (Page.root.commandRows.map (·.1))
  match shell with
  | .bash => "complete -W '" ++ words ++ "' odq\n"
  | .zsh => "compdef '_arguments \"1:command:(" ++ words ++ ")\"' odq\n"
  | .fish => "complete -c odq -f -n __fish_use_subcommand -a '" ++ words ++ "'\n"
  | .powershell =>
    "Register-ArgumentCompleter -Native -CommandName odq -ScriptBlock \x7b param($word) '" ++ words ++
      "' -split ' ' | Where-Object \x7b $_ -like \"$word*\" \x7d \x7d\n"

end ODataQuery.CommandLine
