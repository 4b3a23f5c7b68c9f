import ODataQuery.Text.CaseTables

/-! Letter case: comparison without regard to ASCII case, and the full mapping to lower case with
its rule for a final sigma. -/
namespace ODataQuery.Text

def asciiLower (s : String) : String := String.ofList (s.toList.map Char.toLower)

def equalsIgnoringCase (s t : String) : Bool :=
  s.toList.map Char.toLower == t.toList.map Char.toLower

def isUppercase (c : Char) : Bool := Run.anyContains uppercaseRuns c.toNat

def isLowercase (c : Char) : Bool := Run.anyContains lowercaseRuns c.toNat

def isCased (c : Char) : Bool := Run.anyContains casedRuns c.toNat

def isCaseIgnorable (c : Char) : Bool := Run.anyContains caseIgnorableRuns c.toNat

def shiftedLower : List CaseShift → Nat → Nat
  | [], n => n
  | s :: rest, n =>
    if n < s.run.first then n
    else if s.run.contains n then (Int.ofNat n + s.distance).toNat
    else shiftedLower rest n

/-- The lower-case form of a character away from its neighbours; a capital I with a dot above
becomes two characters. -/
def lowerOfChar (c : Char) : List Char :=
  if c.toNat = 0x130 then ['i', Char.ofNat 0x307] else [Char.ofNat (shiftedLower lowerShifts c.toNat)]

/-- Whether a letter comes next, after any characters that case ignores. -/
def nextIsCased (cs : List Char) : Bool :=
  match cs.dropWhile isCaseIgnorable with
  | [] => false
  | c :: _ => isCased c

/-- Lower case of `cs`, where `before` holds the characters in front of it, last one first: a
capital sigma that ends a word becomes the final form of the letter. -/
def lowerChars (before : List Char) : List Char → List Char
  | [] => []
  | c :: rest =>
    let lower :=
      if c.toNat = 0x3A3 then
        [Char.ofNat (if nextIsCased before && !nextIsCased rest then 0x3C2 else 0x3C3)]
      else lowerOfChar c
    lower ++ lowerChars (c :: before) rest

def lower (s : String) : String := String.ofList (lowerChars [] s.toList)

end ODataQuery.Text
