import TokenFilter.Error
import TokenFilter.Json
import TokenFilter.Text.Blank
import TokenFilter.Text.Case

set_option autoImplicit false

namespace TokenFilter

-- How the predicates of different fields are joined. Those of one field are always alternatives.
inductive Combination where
  | and
  | or
deriving DecidableEq, Repr

namespace Combination

def name : Combination → String
  | .and => "AND"
  | .or => "OR"

def ofName? (word : List Char) : Option Combination :=
  if Text.sameAscii word "and".toList then some .and
  else if Text.sameAscii word "or".toList then some .or
  else none

def read (word : String) : Except Error Combination :=
  let trimmed := Text.trim word.toList
  match ofName? trimmed with
  | some combination => .ok combination
  | none => .error (.unknownCombination (String.ofList trimmed))

end Combination

structure Options where
  combination : Combination := .and
deriving DecidableEq, Repr

namespace Options

def ofWord? : Json → Option Options
  | .string word =>
    match Combination.read word with
    | .ok combination => some ⟨combination⟩
    | .error _ => none
  | _ => none

-- An object in which all keys but `combine` are passed over, or a list with at most the one
-- option. What is not mentioned keeps its default.
def ofJson? : Json → Option Options
  | .object members =>
    match members.find? (·.1 == "combine") with
    | some (_, value) => ofWord? value
    | none => some {}
  | .array [] => some {}
  | .array [value] => ofWord? value
  | _ => none

end Options

end TokenFilter
