set_option autoImplicit false

namespace TokenFilter

inductive Error where
  | unknownCombination (word : String)
  | unresolvedPath (schema path segment : String)
  | nonRecordSegment (schema path segment : String)
  | rangeArity (token : String) (segments : Nat)
  | negationDepth (limit : Nat)
  | malformedForm (fault : String)
deriving DecidableEq, Repr

def Error.message : Error → String
  | .unknownCombination word =>
    "unknown combine type '" ++ word ++ "'; expected 'and' or 'or'"
  | .unresolvedPath schema path segment =>
    "cannot resolve segment '" ++ segment ++ "' of path '" ++ path ++ "' on '" ++ schema ++ "'"
  | .nonRecordSegment schema path segment =>
    "path '" ++ path ++ "' on '" ++ schema ++ "' traverses non-record field '" ++ segment ++ "'"
  | .rangeArity token segments =>
    "range token '" ++ token ++ "' must have exactly two '&'-separated parts, found " ++
      toString segments
  | .negationDepth limit => "negation nested deeper than " ++ toString limit ++ " levels"
  | .malformedForm fault => "malformed query string: " ++ fault

end TokenFilter
