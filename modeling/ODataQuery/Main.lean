import ODataQuery.Console.Program
import Std.Time.DateTime.Timestamp

/-! The program as it runs in a shell. No transport is linked to it, so every request that is sent
fails as if the server could not be reached. -/
namespace ODataQuery

def readVariables (names : List String) : IO (List (String × String)) :=
  names.filterMapM fun name => do return (← IO.getEnv name).map (name, ·)

def readFiles (path : String) : IO (List (String × String)) := do
  try
    return [(path, ← IO.FS.readFile ⟨path⟩)]
  catch _ =>
    return []

/-- Writes a file, and makes the directories on its path. -/
def writeFile (path text : String) : IO Unit := do
  let directory := (path.toList.reverse.dropWhile (· ≠ '/')).reverse
  unless directory.isEmpty do IO.FS.createDirAll ⟨String.ofList directory⟩
  IO.FS.writeFile ⟨path⟩ text

/-- Writes the file of an outcome; where that fails, the failure is the outcome. -/
def store (outcome : Outcome) : IO Outcome := do
  match outcome.written with
  | none => return outcome
  | some (path, text) =>
    try
      writeFile path text
      return outcome
    catch e => return Program.failure false (.config (.notWritten e.toString))

def currentInstant : IO Instant := do
  let duration ← Std.Time.Timestamp.now
  return (Instant.ofSeconds? duration.toSecondsSinceUnixEpoch.val 0).getD ⟨0, 0, by decide⟩

/-- A network that reaches no server. Its requests are their addresses. -/
def unreachable : Network Url where
  domains := .plain
  request address _ := .ok address
  deliver address := .error ⟨"error sending request for url (" ++ address.text ++ ")", none⟩

end ODataQuery

open ODataQuery in
def main (args : List String) : IO UInt32 := do
  let bare : Environment Url :=
    { bindings := ← readVariables ["ODQ_CONFIG", "XDG_CONFIG_HOME", "HOME", "ODQ_BASE_URL"]
      accountHome := none
      files := []
      now := ← currentInstant
      network := unreachable }
  let env ← match bare.configPath with
    | .ok path => do pure { bare with files := ← readFiles path }
    | .error _ => pure bare
  let outcome ← store (Program.run env args)
  (← IO.getStdout).putStr outcome.output
  (← IO.getStderr).putStr outcome.errors
  return outcome.exitCode.toUInt32
