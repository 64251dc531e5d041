import TokenFilter.Predicate.Basic
import TokenFilter.Value.Printer

set_option autoImplicit false

namespace TokenFilter

def Target.render : Target → String
  | .field ref => ref.path
  | .item => "it"

def Policy.wrap (policy : Policy) (shown : String) : String :=
  match policy with
  | .dateTruncate => "date(" ++ shown ++ ")"
  | _ => shown

namespace Predicate

-- Bounds of a range are shown as they are, also where the target is shown as a date.
def renderRange (target : String) : Option Value → Option Value → String
  | some lower, some upper =>
    "(" ++ target ++ " >= " ++ lower.render ++ " AND " ++ target ++ " <= " ++ upper.render ++ ")"
  | some lower, none => target ++ " >= " ++ lower.render
  | none, some upper => target ++ " <= " ++ upper.render
  | none, none => "true"

mutual
def render : Predicate → String
  | .and parts => "(" ++ renderParts " AND " parts ++ ")"
  | .or parts => "(" ++ renderParts " OR " parts ++ ")"
  | .not inner => "NOT " ++ render inner
  | .exists target inner => target.render ++ ".any(it => " ++ render inner ++ ")"
  | .guarded target inner => "(" ++ target.render ++ " != null AND " ++ render inner ++ ")"
  | .compare target comparison value policy =>
    policy.wrap target.render ++ " " ++ comparison.symbol ++ " " ++ policy.wrap value.render
  | .range target lower upper policy => renderRange (policy.wrap target.render) lower upper
  | .contains target value => target.render ++ ".contains(" ++ value.render ++ ")"
  | .function target fn value =>
    "lower(" ++ target.render ++ ")." ++ fn.name ++ "(lower(" ++ value.render ++ "))"
def renderParts (between : String) : List Predicate → String
  | [] => ""
  | [part] => render part
  | part :: rest => render part ++ between ++ renderParts between rest
end

end Predicate

def Comparison.json : Comparison → Json
  | .eq => .string "Eq"
  | .gte => .string "Gte"
  | .lte => .string "Lte"

def TextFunction.json : TextFunction → Json
  | .startsWith => .string "StartsWith"
  | .endsWith => .string "EndsWith"
  | .contains => .string "Contains"
  | .equals => .string "Equals"

def Policy.json : Policy → Json
  | .strict => .string "Strict"
  | .numericWiden => .string "NumericWiden"
  | .dateTruncate => .string "DateTruncate"

def FieldRef.json (ref : FieldRef) : Json :=
  .object [("path", .string ref.path), ("slots", .array (ref.slots.map .ofNat))]

def Target.json : Target → Json
  | .field ref => .tagged "Field" ref.json
  | .item => .string "Item"

def boundJson : Option Value → Json
  | none => .null
  | some value => value.json

namespace Predicate

mutual
def json : Predicate → Json
  | .and parts => .tagged "And" (.array (jsons parts))
  | .or parts => .tagged "Or" (.array (jsons parts))
  | .not inner => .tagged "Not" (json inner)
  | .exists target inner =>
    .tagged "Any" (.object [("target", target.json), ("predicate", json inner)])
  | .guarded target inner =>
    .tagged "NullGuarded" (.object [("target", target.json), ("inner", json inner)])
  | .compare target comparison value policy =>
    .tagged "Compare"
      (.object [("target", target.json), ("op", comparison.json), ("value", value.json),
        ("coercion", policy.json)])
  | .range target lower upper policy =>
    .tagged "Range"
      (.object [("target", target.json), ("lower", boundJson lower), ("upper", boundJson upper),
        ("coercion", policy.json)])
  | .contains target value =>
    .tagged "TextContains" (.object [("target", target.json), ("value", value.json)])
  | .function target fn value =>
    .tagged "TextFunction"
      (.object [("target", target.json), ("func", fn.json), ("value", value.json)])
def jsons : List Predicate → List Json
  | [] => []
  | part :: rest => json part :: jsons rest
end

end Predicate

end TokenFilter
