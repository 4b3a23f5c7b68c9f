import ODataQuery.Filter.Literal
import ODataQuery.Time.Reader
import ODataQuery.Text.Case

/-! What a bare word means as a value: true, false and null in any case, a number, an identifier in its
hyphenated form, a date, and otherwise text. -/
namespace ODataQuery.Expression

/-- A word that may be a number by its first character. -/
def startsLikeNumber (word : String) : Bool :=
  match word.toList with
  | c :: _ => isDigit c || c = '-' || c = '+' || c = '.'
  | [] => false

def numberOfWord? (word : String) : Option Binary64 :=
  if startsLikeNumber word then Binary64.ofText? word else none

def guidOfWord? (word : String) : Option Guid :=
  if word.utf8ByteSize = 36 then Guid.ofText? word else none

def literalOfWord (word : String) : Literal :=
  if Text.equalsIgnoringCase word "true" then .boolean true
  else if Text.equalsIgnoringCase word "false" then .boolean false
  else if Text.equalsIgnoringCase word "null" then .null
  else
    match numberOfWord? word with
    | some x => .number x
    | none =>
      match guidOfWord? word with
      | some g => .guid g
      | none =>
        match Time.parse? word with
        | some t => .instant t
        | none => .text word

end ODataQuery.Expression
