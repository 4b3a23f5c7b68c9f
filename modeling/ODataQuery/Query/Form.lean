import ODataQuery.Url.Percent

/-! Form encoding of names and values: blanks become plus signs, letters, digits and four marks stay,
and every other byte is percent-encoded. -/
namespace ODataQuery.Form

def isSafe (c : Char) : Bool :=
  ('a' ≤ c && c ≤ 'z') || ('A' ≤ c && c ≤ 'Z') || ('0' ≤ c && c ≤ '9') ||
    c = '*' || c = '-' || c = '.' || c = '_'

def encodeChar (c : Char) : List Char :=
  if c = ' ' then ['+'] else if isSafe c then [c] else Url.encodeChar c

def encodeText (s : String) : List Char := s.toList.flatMap encodeChar

def encodePair (name value : String) : List Char := encodeText name ++ '=' :: encodeText value

def encode (pairs : List (String × String)) : String :=
  String.ofList (List.intercalate ['&'] (pairs.map fun (name, value) => encodePair name value))

end ODataQuery.Form
