import ODataQuery.Text.Template
import ODataQuery.Text.Blank
import ODataQuery.Text.Case

/-! Comparison operators: their keywords, the templates they are written with, and which of them a
kind of value takes. -/
namespace ODataQuery

inductive Operator
  | equal
  | notEqual
  | greater
  | greaterOrEqual
  | less
  | lessOrEqual
  | contains
  | notContains
  | startsWith
  | endsWith
  | isEmpty
  | isNotEmpty
  | between
  deriving DecidableEq

namespace Operator

def all : List Operator :=
  [equal, notEqual, greater, greaterOrEqual, less, lessOrEqual, contains, notContains, startsWith,
   endsWith, isEmpty, isNotEmpty, between]

def forText : List Operator :=
  [equal, notEqual, contains, notContains, startsWith, endsWith, isEmpty, isNotEmpty]

/-- Operators for values with an order: numbers and dates. -/
def forOrdered : List Operator :=
  [equal, notEqual, greater, greaterOrEqual, less, lessOrEqual, between, isEmpty, isNotEmpty]

def forChoice : List Operator := [equal, notEqual, isEmpty, isNotEmpty]

/-- Operators that need no value. -/
def isNullary : Operator → Bool
  | isEmpty | isNotEmpty => true
  | _ => false

/-- Operators that look into a text. -/
def isTextSearch : Operator → Bool
  | contains | notContains | startsWith | endsWith => true
  | _ => false

def keyword : Operator → String
  | equal => "eq"
  | notEqual => "ne"
  | greater => "gt"
  | greaterOrEqual => "ge"
  | less => "lt"
  | lessOrEqual => "le"
  | contains => "contains"
  | notContains => "notcontains"
  | startsWith => "startswith"
  | endsWith => "endswith"
  | isEmpty => "isempty"
  | isNotEmpty => "isnotempty"
  | between => "between"

def name : Operator → String
  | equal => "Equal"
  | notEqual => "NotEqual"
  | greater => "GreaterThan"
  | greaterOrEqual => "GreaterThanOrEqual"
  | less => "LessThan"
  | lessOrEqual => "LessThanOrEqual"
  | contains => "Contains"
  | notContains => "NotContains"
  | startsWith => "StartsWith"
  | endsWith => "EndsWith"
  | isEmpty => "IsEmpty"
  | isNotEmpty => "IsNotEmpty"
  | between => "Between"

def ofName? (s : String) : Option Operator := all.find? (·.name == s)

/-- An operator written as a keyword of any case or as a symbol. -/
def ofText? (s : String) : Option Operator :=
  match Text.asciiLower s with
  | "=" | "==" => some equal
  | "!=" | "<>" => some notEqual
  | ">" => some greater
  | ">=" => some greaterOrEqual
  | "<" => some less
  | "<=" => some lessOrEqual
  | word => all.find? (·.keyword == word)

def slot (n : Char) : Text.Piece := .slot [n]

def comparison (word : String) : List Text.Piece :=
  [slot '0', .plain word.toList, slot '1']

def call (function : String) : List Text.Piece :=
  [.plain function.toList, slot '0', .plain [','], slot '1', .plain [')']]

/-- How the operator is written: slot 0 is the path, slots 1 and 2 are values. -/
def template : Operator → List Text.Piece
  | equal => comparison " eq "
  | notEqual => comparison " ne "
  | greater => comparison " gt "
  | greaterOrEqual => comparison " ge "
  | less => comparison " lt "
  | lessOrEqual => comparison " le "
  | contains => call "contains("
  | notContains => call "not contains("
  | startsWith => call "startswith("
  | endsWith => call "endswith("
  | isEmpty => [slot '0', .plain " eq null".toList]
  | isNotEmpty => [slot '0', .plain " ne null".toList]
  | between =>
    [.plain ['('], slot '0', .plain " ge ".toList, slot '1', .plain " and ".toList, slot '0',
     .plain " le ".toList, slot '2', .plain [')']]

def templateText (o : Operator) : String := String.ofList (o.template.flatMap Text.Piece.source)

def write (o : Operator) (args : List String) : String :=
  String.ofList (Text.fillPieces args o.template)

theorem mem_all (o : Operator) : o ∈ all := by cases o <;> decide

theorem ofName?_name (o : Operator) : ofName? o.name = some o := by cases o <;> decide

theorem ofText?_keyword (o : Operator) : ofText? o.keyword = some o := by cases o <;> decide

end Operator

inductive TimeUnit
  | minute
  | hour
  | day
  | week
  | month
  | year
  deriving DecidableEq

namespace TimeUnit

def all : List TimeUnit := [minute, hour, day, week, month, year]

def name : TimeUnit → String
  | minute => "Minute"
  | hour => "Hour"
  | day => "Day"
  | week => "Week"
  | month => "Month"
  | year => "Year"

def ofName? (s : String) : Option TimeUnit := all.find? (·.name == s)

/-- A unit in words or by a short form; case and a plural s do not count. -/
def ofText? (s : String) : Option TimeUnit :=
  match String.ofList (Text.dropEndWhile (· = 's') (Text.asciiLower s).toList) with
  | "minute" | "min" => some minute
  | "hour" | "h" => some hour
  | "day" | "d" => some day
  | "week" | "w" => some week
  | "month" => some month
  | "year" | "y" => some year
  | _ => none

theorem ofName?_name (u : TimeUnit) : ofName? u.name = some u := by cases u <;> decide

end TimeUnit

inductive DateMode
  | exact
  | last
  | next
  | range
  deriving DecidableEq

namespace DateMode

def all : List DateMode := [exact, last, next, range]

def name : DateMode → String
  | exact => "Exact"
  | last => "Last"
  | next => "Next"
  | range => "Range"

def ofName? (s : String) : Option DateMode := all.find? (·.name == s)

theorem ofName?_name (m : DateMode) : ofName? m.name = some m := by cases m <;> decide

end DateMode

inductive Combinator
  | and
  | or
  deriving DecidableEq

namespace Combinator

def separator : Combinator → String
  | and => " and "
  | or => " or "

end Combinator

end ODataQuery
