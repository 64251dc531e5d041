import TokenFilter.Literal
import TokenFilter.Predicate.Printer

set_option autoImplicit false

namespace TokenFilter

inductive Dropped where
  | unreadable (kind : Kind) (token : String) (fault : LiteralFault)
  | boundless

inductive Event where
  | unknownField (schema path : String)
  | tokenSkipped (kind : Kind) (token : String) (fault : LiteralFault)
  | boundlessRange
  | tokenDropped (field token : String)
  | emptyField (schema path : String)
  | compiled (schema : String) (predicate : Predicate)

def Dropped.event : Dropped → Event
  | .unreadable kind token fault => .tokenSkipped kind token fault
  | .boundless => .boundlessRange

namespace Event

def message : Event → String
  | .unknownField .. => "unknown field; entry dropped"
  | .tokenSkipped .. => "token skipped"
  | .boundlessRange => "range token without bounds dropped"
  | .tokenDropped .. => "token dropped"
  | .emptyField .. => "no token survived; field contributes no predicate"
  | .compiled .. => "compiled filter"

def details : Event → List (String × String)
  | .unknownField schema path => [("entity", schema), ("path", path)]
  | .tokenSkipped kind token fault =>
    [("kind", kind.describe), ("token", token), ("error", fault.message)]
  | .boundlessRange => []
  | .tokenDropped field token => [("field", field), ("token", token)]
  | .emptyField schema path => [("entity", schema), ("path", path)]
  | .compiled schema predicate => [("entity", schema), ("predicate", predicate.render)]

end Event

end TokenFilter
