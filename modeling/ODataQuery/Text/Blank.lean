import ODataQuery.Text.Runs

/-! Blank characters (the White_Space property) and what is trimmed or split at them. -/
namespace ODataQuery.Text

def blankRuns : List Run :=
  [⟨0x9, 0xD, 1⟩, ⟨0x20, 0x20, 1⟩, ⟨0x85, 0x85, 1⟩, ⟨0xA0, 0xA0, 1⟩, ⟨0x1680, 0x1680, 1⟩,
   ⟨0x2000, 0x200A, 1⟩, ⟨0x2028, 0x2029, 1⟩, ⟨0x202F, 0x202F, 1⟩, ⟨0x205F, 0x205F, 1⟩,
   ⟨0x3000, 0x3000, 1⟩]

def isBlank (c : Char) : Bool := Run.anyContains blankRuns c.toNat

/-- Drops the elements satisfying `p` from the end of a list. -/
def dropEndWhile (p : α → Bool) : List α → List α
  | [] => []
  | a :: rest =>
    match dropEndWhile p rest with
    | [] => if p a then [] else [a]
    | kept => a :: kept

def trimChars (cs : List Char) : List Char := dropEndWhile isBlank (cs.dropWhile isBlank)

def trim (s : String) : String := String.ofList (trimChars s.toList)

def trimEnd (s : String) : String := String.ofList (dropEndWhile isBlank s.toList)

/-- Nothing but blanks. -/
def isBlankText (s : String) : Bool := s.toList.all isBlank

/-- The longest pieces that hold no character satisfying `p`, in order and without empty ones;
`word` is the piece being read, last character first. -/
def piecesFrom (p : Char → Bool) (word : List Char) : List Char → List String
  | [] => if word.isEmpty then [] else [String.ofList word.reverse]
  | c :: rest =>
    if p c then
      if word.isEmpty then piecesFrom p [] rest
      else String.ofList word.reverse :: piecesFrom p [] rest
    else piecesFrom p (c :: word) rest

def words (s : String) : List String := piecesFrom isBlank [] s.toList

/-- The pieces between the characters satisfying `p`, empty ones included. -/
def splitChars (p : Char → Bool) : List Char → List (List Char)
  | [] => [[]]
  | c :: rest =>
    if p c then [] :: splitChars p rest
    else
      match splitChars p rest with
      | [] => [[c]]
      | piece :: more => (c :: piece) :: more

def split (p : Char → Bool) (s : String) : List String :=
  (splitChars p s.toList).map String.ofList

theorem splitChars_ne_nil (p : Char → Bool) (cs : List Char) : splitChars p cs ≠ [] := by
  cases cs with
  | nil => simp [splitChars]
  | cons c rest =>
    rw [splitChars]
    split
    · simp
    · cases splitChars p rest <;> simp

theorem dropEndWhile_append_singleton (p : α → Bool) (l : List α) (a : α) :
    dropEndWhile p (l ++ [a]) = if p a then dropEndWhile p l else l ++ [a] := by
  induction l with
  | nil => simp [dropEndWhile]
  | cons b rest ih =>
    rw [List.cons_append, dropEndWhile, ih]
    by_cases h : p a
    · simp [h, dropEndWhile]
    · cases rest <;> simp [h]

end ODataQuery.Text
