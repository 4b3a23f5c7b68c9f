import ODataQuery.Settings.Basic
import ODataQuery.Text.Blank

/-! The user's configuration and how single settings are changed. -/
namespace ODataQuery

structure Config where
  version : Nat := 1
  baseAddress : Option String := none
  alternates : Addresses := {}
  pageSize : Option Nat := none
  timeoutSeconds : Option Nat := none
  deriving DecidableEq

/-- Why a configuration is not read, changed or written. -/
inductive ConfigFault
  | unreadable
  | unknownKey (key : String)
  | badAddress (value : String)
  | badNumber (key value : String)
  | noServiceRoot
  | noDirectory
  | notWritten (reason : String)
  deriving DecidableEq

def ConfigFault.message : ConfigFault → String
  | unreadable => "Failed to parse config: expected a table of settings"
  | unknownKey key =>
    "Unknown config key '" ++ key ++
      "'. Valid keys: base_address, page_size, timeout_secs, alternate.<name>"
  | badAddress value => "Invalid address '" ++ value ++ "'. Use an http:// or https:// URL"
  | badNumber key value => "Invalid " ++ key ++ " value '" ++ value ++ "'. Use a positive integer"
  | noServiceRoot =>
    "No service root configured. Run 'odq config set base_address <url>' or pass --base-url"
  | noDirectory => "Could not determine config directory"
  | notWritten reason => "Failed to write config: " ++ reason

namespace Config

def settings (c : Config) : Settings :=
  ⟨c.baseAddress.getD "", c.alternates, c.pageSize⟩

/-- Seconds until a request is given up. -/
def timeout (c : Config) : Nat := c.timeoutSeconds.getD 30

/-- An address of the web without blanks around it and slashes at its end. -/
def addressOf (value : String) : Except ConfigFault String :=
  let trimmed := Text.trimChars value.toList
  if "http://".toList.isPrefixOf trimmed ∨ "https://".toList.isPrefixOf trimmed then
    .ok (String.ofList (Text.dropEndWhile (· = '/') trimmed))
  else .error (.badAddress (String.ofList trimmed))

def positiveOf (key value : String) : Except ConfigFault Nat :=
  match natWithin? 4294967295 (Text.trim value) with
  | some n => if 0 < n then .ok n else .error (.badNumber key value)
  | none => .error (.badNumber key value)

/-- The name in a key such as `alternate.archive`. -/
def alternateName? (key : String) : Option String :=
  let start := "alternate.".toList
  let name := key.toList.drop start.length
  if start.isPrefixOf key.toList ∧ !name.isEmpty then some (String.ofList name) else none

def set (c : Config) (key value : String) : Except ConfigFault Config := do
  match key with
  | "base_address" => return { c with baseAddress := some (← addressOf value) }
  | "page_size" => return { c with pageSize := some (← positiveOf key value) }
  | "timeout_secs" => return { c with timeoutSeconds := some (← positiveOf key value) }
  | _ =>
    match alternateName? key with
    | none => throw (.unknownKey key)
    | some name => return { c with alternates := c.alternates.insert name (← addressOf value) }

end Config

end ODataQuery
