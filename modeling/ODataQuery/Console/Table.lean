import ODataQuery.Envelope

/-! Envelopes as tables of plain text: a header, a line for each row and a summary. -/
namespace ODataQuery.Table

/-- No column is wider. -/
def maxWidth : Nat := 30

/-- The columns that a row needs; a row that is no object stands in a column of its own. -/
def keysOf : Json → List String
  | .object members => members.map (·.1)
  | _ => ["value"]

def columns (rows : List Json) : List String := (rows.flatMap keysOf).eraseDups

def entry? (row : Json) (column : String) : Option Json :=
  match row with
  | .object members => members.lookup column
  | other => if column = "value" then some other else none

/-- The text of a cell; null and nothing are empty, and strings stand without quotes. -/
def cell (row : Json) (column : String) : String :=
  match entry? row column with
  | none | some .null => ""
  | some (.string s) => s
  | some v => v.compact

/-- Cuts a text down to a number of characters, of which the last three are points. -/
def truncate (limit : Nat) (cs : List Char) : List Char :=
  if limit < cs.length then cs.take (limit - 3) ++ ['.', '.', '.'] else cs

/-- The text of a cell, cut or filled with blanks to a width. -/
def fit (width : Nat) (cs : List Char) : List Char :=
  let kept := truncate width cs
  kept ++ List.replicate (width - kept.length) ' '

def fullLine (widths : List Nat) (cells : List String) : List Char :=
  List.intercalate [' ', ' '] (List.zipWith (fun w s => fit w s.toList) widths cells)

/-- The same without blanks at the end. -/
def line (widths : List Nat) (cells : List String) : List Char :=
  Text.dropEndWhile Text.isBlank (fullLine widths cells)

def cells (rows : List Json) : List (List String) :=
  rows.map fun row => (columns rows).map (cell row)

/-- The width of a column: its longest text, within the limit. -/
def width (rows : List Json) (column : String) : Nat :=
  min maxWidth
    ((rows.map fun row => (cell row column).toList.length).foldl max column.toList.length)

def widths (rows : List Json) : List Nat := (columns rows).map (width rows)

def summary (e : Envelope Json) : List Char :=
  match e.count with
  | some count =>
    digitsOf e.size ++ " of ".toList ++ Json.Number.intText count ++ " rows".toList
  | none => digitsOf e.size ++ " rows".toList

def faint (colors : Bool) (cs : List Char) : List Char :=
  if colors then "\x1b[2m".toList ++ cs ++ "\x1b[0m".toList else cs

/-- The lines of the table of an envelope that has rows. -/
def lines (colors : Bool) (e : Envelope Json) : List (List Char) :=
  faint colors (line (widths e.rows) (columns e.rows)) ::
    ((cells e.rows).map (line (widths e.rows)) ++ [faint colors (summary e)])

def emptyText (count : Option Int) : List Char :=
  match count with
  | some n =>
    if 0 < n then "No rows on this page (".toList ++ Json.Number.intText n ++ " total).\n".toList
    else "No rows found.\n".toList
  | none => "No rows found.\n".toList

def render (colors : Bool) (e : Envelope Json) : String :=
  String.ofList
    (if e.isEmpty then emptyText e.count else (lines colors e).flatMap (· ++ ['\n']))

end ODataQuery.Table
