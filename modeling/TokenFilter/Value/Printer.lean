import TokenFilter.Value.Basic
import TokenFilter.Json

set_option autoImplicit false

namespace TokenFilter

open Calendar

def Key.json : Key → Json
  | .int n => .tagged "Int" (.ofInt n.toInt)
  | .text s => .tagged "Text" (.string s)

def Key.named : Key → String
  | .int n => "Int(" ++ String.ofList (Integer.chars n.toInt) ++ ")"
  | .text s => "Text(" ++ Text.quoted s ++ ")"

namespace Value

def boolText (b : Bool) : String := if b then "true" else "false"

mutual
-- Plain text. Enumerations show the bare name, texts stand in quotes, and a record shows only how
-- many fields it has.
def render : Value → String
  | .bool b => boolText b
  | .keyed _ member _ => member
  | .date d => String.ofList d.chars
  | .dateTime d => String.ofList d.chars
  | .dateTimeOffset d => String.ofList d.chars
  | .decimal d => String.ofList d.chars
  | .enumeration _ variant => variant
  | .float x => String.ofList x.chars
  | .guid g => String.ofList g.chars
  | .int n => String.ofList (Integer.chars n.toInt)
  | .list [] => "[]"
  | .list (item :: rest) => "[" ++ render item ++ renderRest rest ++ "]"
  | .null => "null"
  | .record fields =>
    "\x7brecord: " ++ String.ofList (Integer.naturalChars fields.length) ++ " fields\x7d"
  | .text s => Text.quoted s
  | .uint n => String.ofList (Integer.naturalChars n.toNat)
def renderRest : List Value → String
  | [] => ""
  | item :: rest => ", " ++ render item ++ renderRest rest
end

def floatJson (x : Binary64) : Json :=
  if x.isFinite then .number (String.ofList (Binary.Style.json.chars x)) else .null

mutual
def json : Value → Json
  | .bool b => .tagged "Bool" (.bool b)
  | .keyed path member key =>
    .tagged "Closed"
      (.object [("path", .string path), ("member", .string member), ("key", key.json)])
  | .date d => .tagged "Date" (.string (String.ofList d.chars))
  | .dateTime d => .tagged "DateTime" (.string (String.ofList d.chars))
  | .dateTimeOffset d => .tagged "DateTimeOffset" (.string (String.ofList d.zuluChars))
  | .decimal d => .tagged "Decimal" (.string (String.ofList d.chars))
  | .enumeration path variant =>
    .tagged "Enum" (.object [("path", .string path), ("variant", .string variant)])
  | .float x => .tagged "Float64" (floatJson x)
  | .guid g => .tagged "Guid" (.string (String.ofList g.chars))
  | .int n => .tagged "Int" (.ofInt n.toInt)
  | .list items => .tagged "List" (.array (jsons items))
  | .null => .string "Null"
  | .record fields => .tagged "Record" (.array (jsons fields))
  | .text s => .tagged "Text" (.string s)
  | .uint n => .tagged "Uint" (.ofNat n.toNat)
def jsons : List Value → List Json
  | [] => []
  | value :: rest => json value :: jsons rest
end

mutual
def named : Value → String
  | .bool b => "Bool(" ++ boolText b ++ ")"
  | .keyed path member key =>
    "Closed(ClosedValue \x7b path: " ++ Text.quoted path ++ ", member: " ++ Text.quoted member ++
      ", key: " ++ key.named ++ " \x7d)"
  | .date d => "Date(" ++ String.ofList d.chars ++ ")"
  | .dateTime d => "DateTime(" ++ String.ofList d.chars ++ ")"
  | .dateTimeOffset d => "DateTimeOffset(" ++ String.ofList d.namedChars ++ ")"
  | .decimal d => "Decimal(" ++ String.ofList d.chars ++ ")"
  | .enumeration path variant =>
    "Enum(ValueEnum \x7b path: " ++ Text.quoted path ++ ", variant: " ++ Text.quoted variant ++
      " \x7d)"
  | .float x => "Float64(" ++ String.ofList (Binary.Style.named.chars x) ++ ")"
  | .guid g => "Guid(" ++ String.ofList g.chars ++ ")"
  | .int n => "Int(" ++ String.ofList (Integer.chars n.toInt) ++ ")"
  | .list items => "List([" ++ namedItems items ++ "])"
  | .null => "Null"
  | .record fields => "Record([" ++ namedItems fields ++ "])"
  | .text s => "Text(" ++ Text.quoted s ++ ")"
  | .uint n => "Uint(" ++ String.ofList (Integer.naturalChars n.toNat) ++ ")"
def namedItems : List Value → String
  | [] => ""
  | [value] => named value
  | value :: rest => named value ++ ", " ++ namedItems rest
end

end Value

end TokenFilter
