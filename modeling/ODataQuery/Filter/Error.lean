import ODataQuery.Filter.Operator
import ODataQuery.Number.Decimal

/-! Why a filter expression or a filter is refused. Compiling never fails. -/
namespace ODataQuery

inductive FilterError
  | emptyExpression
  | unexpectedToken (token : String)
  | unexpectedEnd
  | unexpectedCharacter (character : Char) (position : Nat)
  | unterminatedString (position : Nat)
  | unclosedParenthesis
  | unknownOperator (text : String)
  | unsupportedOperator (operator : Operator) (kind : String)
  | mixedCombinators
  | repeatedClause (field : String) (operator : Operator)
  | invalidLiteral (text : String)
  | invalidTimeUnit (text : String)
  deriving DecidableEq

namespace FilterError

def positionText (n : Nat) : String := String.ofList (digitsOf n)

def message : FilterError → String
  | emptyExpression => "filter expression is empty"
  | unexpectedToken token => "unexpected token: " ++ token
  | unexpectedEnd => "unexpected end of expression"
  | unexpectedCharacter c position =>
    "unexpected character '" ++ String.singleton c ++ "' at position " ++ positionText position
  | unterminatedString position =>
    "unterminated string starting at position " ++ positionText position
  | unclosedParenthesis => "unclosed parenthesis"
  | unknownOperator text => "unknown operator: " ++ text
  | unsupportedOperator operator kind =>
    "operator '" ++ operator.keyword ++ "' is not supported for " ++ kind ++ " filters"
  | mixedCombinators => "cannot mix 'and' and 'or' in one expression"
  | repeatedClause field operator =>
    "cannot join two '" ++ operator.keyword ++ "' clauses on " ++ field ++ " with 'and'"
  | invalidLiteral text => "invalid literal: " ++ text
  | invalidTimeUnit text => "invalid time unit: " ++ text

end FilterError

end ODataQuery
