import ODataQuery.Text.Template

/-! Texts of messages. A message is a key with arguments; a table of templates may say it in other
words, and a key that has no template stands for itself. -/
namespace ODataQuery

/-- Templates by their keys; the last one of a key counts. -/
structure Localizer where
  templates : List (String × String) := []

namespace Localizer

def standard? (key : String) : Option String :=
  match key with
  | "DataReadStatusError" => some "Could not read data (HTTP status \x7b0\x7d)."
  | "DataParseError" => some "Could not parse the server response: \x7b0\x7d"
  | "DataReadEmptyError" => some "The server returned an empty result."
  | "DataReadNetworkError" => some "Could not reach the server: \x7b0\x7d"
  | "DataReadCancelled" => some "The request was cancelled."
  | _ => none

def template? (l : Localizer) (key : String) : Option String :=
  (l.templates.reverse.lookup key).or (standard? key)

def text (l : Localizer) (key : String) (args : List String) : String :=
  match l.template? key with
  | some template => Text.fillTemplate template args
  | none => key

end Localizer

end ODataQuery
