import ODataQuery.Console.Plan

/-! The command line: which commands and options there are, and how arguments are read. Options stand
anywhere behind the command they belong to; those of the program itself are known to every command. -/
namespace ODataQuery

inductive Shell
  | bash
  | zsh
  | fish
  | powershell
  deriving DecidableEq

inductive ConfigCommand
  | showAll
  | path
  | set (key value : String)
  deriving DecidableEq

inductive Command
  | query (args : QueryArgs)
  | url (args : QueryArgs)
  | config (command : Option ConfigCommand)
  | completions (shell : Shell)
  deriving DecidableEq

structure Invocation where
  verbose : Bool
  quiet : Bool
  json : Bool
  colors : Bool
  serviceRoot : Option String
  command : Command
  deriving DecidableEq

namespace CommandLine

inductive Page
  | root
  | query
  | url
  | config
  | configShow
  | configSet
  | configPath
  | completions
  deriving DecidableEq

/-- What an option takes and whether it may be repeated. -/
inductive OptionKind
  | flag
  | text
  | texts
  | number
  | help
  | version
  deriving DecidableEq

structure OptionSpec where
  name : String
  short : Option Char := none
  kind : OptionKind := .flag
  deriving DecidableEq

def sharedOptions : List OptionSpec :=
  [⟨"verbose", some 'v', .flag⟩, ⟨"quiet", some 'q', .flag⟩, ⟨"json", none, .flag⟩,
   ⟨"no-color", none, .flag⟩, ⟨"base-url", none, .text⟩, ⟨"help", some 'h', .help⟩,
   ⟨"version", some 'V', .version⟩]

def queryOptions : List OptionSpec :=
  [⟨"filter", some 'f', .text⟩, ⟨"sort", some 's', .texts⟩, ⟨"top", some 't', .number⟩,
   ⟨"skip", none, .number⟩, ⟨"no-count", none, .flag⟩, ⟨"expand", some 'x', .texts⟩,
   ⟨"backend", some 'b', .text⟩]

namespace Page

def options : Page → List OptionSpec
  | query | url => queryOptions ++ sharedOptions
  | _ => sharedOptions

/-- What the words behind the command stand for; all have to be there. -/
def words : Page → List String
  | query | url => ["ENTITY_SET"]
  | configSet => ["KEY", "VALUE"]
  | completions => ["SHELL"]
  | _ => []

def command? : Page → String → Option Page
  | root, "query" | root, "q" => some query
  | root, "url" => some url
  | root, "config" => some config
  | root, "completions" => some completions
  | config, "show" => some configShow
  | config, "set" => some configSet
  | config, "path" => some configPath
  | _, _ => none

def hasCommands : Page → Bool
  | root | config => true
  | _ => false

def longOption? (page : Page) (name : String) : Option OptionSpec :=
  page.options.find? (·.name == name)

def shortOption? (page : Page) (c : Char) : Option OptionSpec :=
  page.options.find? (·.short == some c)

end Page

/-- Why no command is run: a page of help or the version is asked for, or the arguments make no
sense. -/
inductive UsageError
  | help (page : Page)
  | helpOfHelp
  | version (page : Page)
  | nothingGiven
  | missingCommand
  | unknownCommand (word : String)
  | unknownArgument (text : String)
  | missingWord (name : String)
  | missingValue (option : String)
  | unknownChoice (value : String)
  | badNumber (option value : String)
  | conflict (option : String)
  | unneededValue (option : String)
  deriving DecidableEq

def shellOf? (word : String) : Option Shell :=
  match word with
  | "bash" => some .bash
  | "zsh" => some .zsh
  | "fish" => some .fish
  | "powershell" => some .powershell
  | _ => none

def numberOf? (value : String) : Option Nat := (intWithin? 0 4294967295 value).map Int.toNat

inductive Pending
  | nothing
  | option (spec : OptionSpec) (value : Option String)
  | word (value : String)

structure Scan where
  flags : List String := []
  values : List (String × String) := []
  words : List String := []
  pending : Pending := .nothing

namespace Scan

/-- Settles what was read last: its value has to be there, once and of the right kind. -/
def settle (page : Page) (s : Scan) : Except UsageError Scan :=
  match s.pending with
  | .nothing => .ok s
  | .option spec none => .error (.missingValue spec.name)
  | .option spec (some value) =>
    if spec.kind ≠ .texts ∧ (s.values.lookup spec.name).isSome then .error (.conflict spec.name)
    else if spec.kind = .number ∧ (numberOf? value).isNone then
      .error (.badNumber spec.name value)
    else .ok { s with values := s.values ++ [(spec.name, value)], pending := .nothing }
  | .word value =>
    if page = .completions ∧ (shellOf? value).isNone then .error (.unknownChoice value)
    else .ok { s with words := s.words ++ [value], pending := .nothing }

def takeFlag (page : Page) (s : Scan) (spec : OptionSpec) : Except UsageError Scan := do
  let s ← s.settle page
  match spec.kind with
  | .help => throw (.help page)
  | .version => throw (.version page)
  | _ =>
    if s.flags.contains spec.name then throw (.conflict spec.name)
    return { s with flags := s.flags ++ [spec.name] }

/-- Takes an option and the value that comes with it, if any; without one the next argument is its
value. -/
def takeOption (page : Page) (s : Scan) (spec : OptionSpec) (value : Option String) :
    Except UsageError Scan := do
  let s ← s.settle page
  let opened := { s with pending := .option spec value }
  if value.isSome then opened.settle page else return opened

def wordCount (s : Scan) : Nat :=
  s.words.length + match s.pending with
    | .word _ => 1
    | _ => 0

def takeWord (page : Page) (trailing : Bool) (s : Scan) (word : String) : Except UsageError Scan := do
  if s.wordCount < page.words.length then
    let s ← s.settle page
    return { s with pending := .word word }
  else if page.hasCommands ∧ !trailing then throw (.unknownCommand word)
  else throw (.unknownArgument word)

/-- Whether the next argument is the value of an option. -/
def awaitsValue (s : Scan) : Bool :=
  match s.pending with
  | .option _ none => true
  | _ => false

def hasFlag (s : Scan) (name : String) : Bool := s.flags.contains name

def value? (s : Scan) (name : String) : Option String := s.values.lookup name

def valuesOf (s : Scan) (name : String) : List String :=
  (s.values.filter (·.1 == name)).map (·.2)

end Scan

def takesValue (spec : OptionSpec) : Bool :=
  spec.kind = .text || spec.kind = .texts || spec.kind = .number

def readLong (page : Page) (s : Scan) (body : List Char) : Except UsageError Scan :=
  let name := String.ofList (body.takeWhile (· ≠ '='))
  let value := match body.dropWhile (· ≠ '=') with
    | _ :: rest => some (String.ofList rest)
    | [] => none
  match page.longOption? name with
  | none => .error (.unknownArgument ("--" ++ name))
  | some spec =>
    if takesValue spec then s.takeOption page spec value
    else if value.isSome then .error (.unneededValue spec.name)
    else s.takeFlag page spec

/-- Reads the letters behind one dash: flags, and perhaps an option with the rest as its value. -/
def readShort (page : Page) (s : Scan) : List Char → Except UsageError Scan
  | [] => .ok s
  | c :: rest =>
    match page.shortOption? c with
    | none => .error (.unknownArgument (String.ofList ['-', c]))
    | some spec =>
      if takesValue spec then
        match rest with
        | [] => s.takeOption page spec none
        | '=' :: value => s.takeOption page spec (some (String.ofList value))
        | value => s.takeOption page spec (some (String.ofList value))
      else do
        let s ← s.takeFlag page spec
        readShort page s rest

def helpAt (page : Page) : List String → UsageError
  | [] => .help page
  | word :: rest =>
    match page.command? word with
    | some inner => helpAt inner rest
    | none =>
      if word = "help" ∧ page.hasCommands then
        match rest with
        | [] => .helpOfHelp
        | next :: _ => .unknownCommand next
      else .unknownCommand word

/-- Reads the arguments of one command up to the next command. Behind two dashes alone, which is when
`trailing`, everything is a word. -/
def scan (page : Page) (trailing : Bool) (s : Scan) :
    List String → Except UsageError (Scan × Option (Page × List String))
  | [] => .ok (s, none)
  | arg :: rest => do
    if trailing then
      let s ← s.takeWord page true arg
      scan page true s rest
    else if !s.awaitsValue ∧ (page.command? arg).isSome then
      return (s, (page.command? arg).map (·, rest))
    else if !s.awaitsValue ∧ arg = "help" ∧ page.hasCommands then throw (helpAt page rest)
    else
      match arg.toList with
      | ['-', '-'] => scan page true s rest
      | '-' :: '-' :: body => do
        let s ← readLong page s body
        scan page false s rest
      | '-' :: c :: cs => do
        let s ← readShort page s (c :: cs)
        scan page false s rest
      | _ =>
        match s.pending with
        | .option spec none => scan page false { s with pending := .option spec (some arg) } rest
        | _ => do
          let s ← s.takeWord page false arg
          scan page false s rest

/-- Checks the arguments of one command as a whole. `root` is the service root that the environment
gives. -/
def check (page : Page) (root : Option String) (hasCommand : Bool) (s : Scan) :
    Except UsageError Scan := do
  let s ← s.settle page
  if page = .root ∧ !hasCommand then
    if s.flags.isEmpty ∧ s.values.isEmpty ∧ root.isNone then throw .nothingGiven
    throw .missingCommand
  if s.hasFlag "verbose" ∧ s.hasFlag "quiet" then throw (.conflict "quiet")
  match page.words.drop s.words.length with
  | name :: _ => throw (.missingWord name)
  | [] => return s

/-- The commands on a line with their arguments, at most `fuel` of them. The arguments of the last one
are checked first. -/
def levels (root : Option String) :
    Nat → Page → List String → Except UsageError (List (Page × Scan))
  | 0, _, _ => .ok []
  | fuel + 1, page, args => do
    let (s, next) ← scan page false {} args
    let inner ← match next with
      | none => pure []
      | some (command, rest) => levels root fuel command rest
    let checked ← check page root (!inner.isEmpty) s
    return (page, checked) :: inner

def queryArgs (s : Scan) : QueryArgs :=
  { entitySet := s.words.headD ""
    filter := s.value? "filter"
    sort := s.valuesOf "sort"
    top := (s.value? "top").bind numberOf?
    skip := (s.value? "skip").bind numberOf?
    noCount := s.hasFlag "no-count"
    expand := s.valuesOf "expand"
    backend := s.value? "backend" }

def commandOf (page : Page) (s : Scan) : Command :=
  match page with
  | .query => .query (queryArgs s)
  | .url => .url (queryArgs s)
  | .configShow => .config (some .showAll)
  | .configPath => .config (some .path)
  | .configSet => .config (some (.set (s.words.headD "") (s.words.getD 1 "")))
  | .completions => .completions (((s.words.head?).bind shellOf?).getD .bash)
  | .root | .config => .config none

/-- Reads the arguments of the program. Options of the program may be given to any of the commands; of
several service roots the one given last counts, before the one of the environment. -/
def read (root : Option String) (args : List String) : Except UsageError Invocation := do
  let all ← levels root (args.length + 1) .root args
  let given (name : String) : Bool := all.any fun l => l.2.hasFlag name
  return {
    verbose := given "verbose"
    quiet := given "quiet"
    json := given "json"
    colors := !given "no-color"
    serviceRoot := (all.reverse.findSome? fun l => l.2.value? "base-url").or root
    command := match all.getLast? with
      | some (page, s) => commandOf page s
      | none => .config none }

end CommandLine

end ODataQuery
