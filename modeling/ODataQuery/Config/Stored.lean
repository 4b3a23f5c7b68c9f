import ODataQuery.Config.Basic
import ODataQuery.Toml.Reader

/-! The stored forms of a configuration: the file, which is TOML, and JSON. -/
namespace ODataQuery.Config

def addressesOfToml? : Toml → Option Addresses
  | .table entries => do
    some (Addresses.ofList (← entries.mapM fun e => do some (e.1, ← e.2.asString?)))
  | _ => none

def setting? (entries : List (String × Toml)) (key : String) (decode : Toml → Option α) :
    Option (Option α) :=
  match entries.lookup key with
  | none => some none
  | some v => (decode v).map some

def ofToml? (entries : List (String × Toml)) : Option Config := do
  some
    { version := (← setting? entries "version" (Toml.asNat? 4294967295)).getD 1
      baseAddress := ← setting? entries "base_address" Toml.asString?
      alternates := (← setting? entries "alternate_base_addresses" addressesOfToml?).getD {}
      pageSize := ← setting? entries "page_size" (Toml.asNat? 4294967295)
      timeoutSeconds := ← setting? entries "timeout_secs" (Toml.asNat? 18446744073709551615) }

/-- Reads a file. Whatever its version, the configuration is of the first one. -/
def ofFile (text : String) : Except ConfigFault Config :=
  match (Toml.parse? text).bind ofToml? with
  | some c => .ok { c with version := 1 }
  | none => .error .unreadable

def line (key : List Char) (value : List Char) : List Char := key ++ " = ".toList ++ value ++ ['\n']

def numberLine (key : String) : Option Nat → List Char
  | some n => line key.toList (digitsOf n)
  | none => []

def addressLines (s : Addresses) : List Char :=
  if s.isEmpty then []
  else
    "\n[alternate_base_addresses]\n".toList ++
      s.entries.flatMap fun e => line (Toml.keyText e.1) (Toml.stringText e.2)

/-- The text of a file: what is set, the addresses last. -/
def fileText (c : Config) : String :=
  String.ofList
    (numberLine "version" (some c.version) ++
      (match c.baseAddress with
       | some address => line "base_address".toList (Toml.stringText address)
       | none => []) ++
      numberLine "page_size" c.pageSize ++ numberLine "timeout_secs" c.timeoutSeconds ++
      addressLines c.alternates)

/-- The configuration that a file holds; without a file everything is left to the defaults. -/
def load (file : Option String) : Except ConfigFault Config :=
  match file with
  | none => .ok {}
  | some text => ofFile text

/-- The text of a file after one setting was changed in it. -/
def change (file : Option String) (key value : String) : Except ConfigFault String := do
  return (← (← load file).set key value).fileText

def toJson (c : Config) : Json :=
  .object
    ([("version", .ofNat c.version)] ++ Json.memberOf "base_address" Json.string c.baseAddress ++
      (if c.alternates.isEmpty then []
       else [("alternate_base_addresses", c.alternates.toJson)]) ++
      Json.memberOf "page_size" Json.ofNat c.pageSize ++
      Json.memberOf "timeout_secs" Json.ofNat c.timeoutSeconds)

def ofJson? (j : Json) : Option Config := do
  match ← j.entries?
    ["version", "base_address", "alternate_base_addresses", "page_size", "timeout_secs"] with
  | [version, baseAddress, alternates, pageSize, timeout] =>
    some
      { version := ← version.orElse (Json.asNat? 4294967295) 1
        baseAddress := ← baseAddress.optional Json.asString?
        alternates := ← alternates.orElse Addresses.ofJson? {}
        pageSize := ← pageSize.optional (Json.asNat? 4294967295)
        timeoutSeconds := ← timeout.optional (Json.asNat? 18446744073709551615) }
  | _ => none

end ODataQuery.Config
