import SeriesQuery.Filter.Basic
import SeriesQuery.Stage.Error

/-! # Why a query is refused -/

namespace SeriesQuery

/-- Why a text is no query. -/
inductive QueryError where
  | empty
  | noField (selection : String)
  | noMeasurement (selection : String)
  | filter (expression : String) (cause : FilterError)
  | stage (cause : StageError)
deriving DecidableEq, Repr

namespace QueryError

def message : QueryError → String
  | empty => "Invalid query syntax: empty query"
  | noField selection => "Invalid query syntax: missing field name in '" ++ selection ++ "'"
  | noMeasurement selection =>
    "Invalid query syntax: missing measurement name in '" ++ selection ++ "'"
  | filter expression _ => "Invalid query syntax: invalid filter '" ++ expression ++ "'"
  | stage cause => cause.message

def causes : QueryError → List String
  | filter _ cause => [cause.message]
  | empty | noField _ | noMeasurement _ | stage _ => []

end QueryError
end SeriesQuery
