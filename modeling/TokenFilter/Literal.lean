import TokenFilter.Token
import TokenFilter.Value.Printer
import TokenFilter.Binary.Reader
import TokenFilter.Decimal.Reader
import TokenFilter.Calendar.Reader

set_option autoImplicit false

namespace TokenFilter

inductive LiteralFault where
  | unknownVariant (path token : String)
  | unknownMember (path token : String)
  | notBool (token : String)
  | notInteger (token : String) (fault : Integer.Fault)
  | notUnsigned (token : String) (fault : Integer.Fault)
  | notFloat (token : String) (fault : Binary.ReadFault)
  | notDecimal (token : String) (fault : Decimal.ReadFault)
  | notDate (token : String) (fault : Calendar.Fault)
  | notDateTime (token : String) (fault : Calendar.Fault)
  | notGuid (token : String) (fault : Guid.Fault)
  | noLiterals (kind : Kind)
  | noKey (path : String) (value : Value)

def unreadable (noun token message : String) : String :=
  "'" ++ token ++ "' is not a valid " ++ noun ++ ": " ++ message

def unfilterable (kind : String) : String :=
  "fields of kind " ++ kind ++ " cannot be filtered by value"

def LiteralFault.message : LiteralFault → String
  | .unknownVariant path token => "'" ++ token ++ "' is not a member of enum '" ++ path ++ "'"
  | .unknownMember path token => "'" ++ token ++ "' does not key a member of '" ++ path ++ "'"
  | .notBool token => "'" ++ token ++ "' is not a boolean (yes/true/1, no/false/0)"
  | .notInteger token fault => unreadable "integer" token fault.message
  | .notUnsigned token fault => unreadable "unsigned integer" token fault.message
  | .notFloat token fault => unreadable "float" token fault.message
  | .notDecimal token fault => unreadable "decimal" token fault.message
  | .notDate token fault => unreadable "date" token fault.message
  | .notDateTime token fault => unreadable "date-time" token fault.message
  | .notGuid token fault => unreadable "guid" token fault.message
  | .noLiterals kind => unfilterable kind.describe
  | .noKey path value => unfilterable (path ++ " key " ++ value.named)

namespace Literal

def yesWords : List String := ["yes", "true", "1"]

def noWords : List String := ["no", "false", "0"]

def readBool? (cs : List Char) : Option Bool :=
  if yesWords.any fun word => Text.sameAscii word.toList cs then some true
  else if noWords.any fun word => Text.sameAscii word.toList cs then some false
  else none

def bool (cs : List Char) : Except LiteralFault Value :=
  let trimmed := Text.trim cs
  match readBool? trimmed with
  | some b => .ok (.bool b)
  | none => .error (.notBool (String.ofList trimmed))

-- The text of a value that may stand in quotes of its own.
def bare (cs : List Char) : List Char := Token.unquoted (Text.trim cs)

def date (cs : List Char) : Except LiteralFault Value :=
  ((Calendar.readDate (Text.trim cs)).map Value.date).mapError (.notDate (String.ofList cs))

def dateTime (cs : List Char) : Except LiteralFault Value :=
  let trimmed := Text.trim cs
  ((Calendar.readDateTime trimmed).map Value.dateTime).mapError
    (.notDateTime (String.ofList trimmed))

def dateTimeOffset (cs : List Char) : Except LiteralFault Value :=
  let trimmed := Text.trim cs
  ((Calendar.readOffsetDateTime trimmed).map Value.dateTimeOffset).mapError
    (.notDateTime (String.ofList trimmed))

def guid (cs : List Char) : Except LiteralFault Value :=
  ((Guid.read (Text.trim cs)).map Value.guid).mapError (.notGuid (String.ofList cs))

def int (cs : List Char) : Except LiteralFault Value :=
  ((Integer.readInt64 (bare cs)).map Value.int).mapError (.notInteger (String.ofList cs))

def uint (cs : List Char) : Except LiteralFault Value :=
  ((Integer.readUInt64 (bare cs)).map Value.uint).mapError (.notUnsigned (String.ofList cs))

def float (cs : List Char) : Except LiteralFault Value :=
  ((Binary.read (bare cs)).map Value.float).mapError (.notFloat (String.ofList cs))

def decimal (cs : List Char) : Except LiteralFault Value :=
  ((Decimal.read (bare cs)).map Value.decimal).mapError (.notDecimal (String.ofList cs))

def enumeration (e : Enumeration) (cs : List Char) : Except LiteralFault Value :=
  let token := String.ofList cs
  match e.find? token with
  | some variant => .ok (e.value variant)
  | none => .error (.unknownVariant e.path token)

def key? : Value → Option Key
  | .int n => some (.int n)
  | .text s => some (.text s)
  | _ => none

def member (k : Keyed) (token : String) (value : Value) : Except LiteralFault Value :=
  match key? value with
  | none => .error (.noKey k.path value)
  | some key =>
    match k.keyed? key with
    | some found => .ok (k.value found)
    | none => .error (.unknownMember k.path token)

end Literal

def Kind.readLiteral (cs : List Char) : Kind → Except LiteralFault Value
  | .bool => Literal.bool cs
  | .date => Literal.date cs
  | .dateTime => Literal.dateTime cs
  | .dateTimeOffset => Literal.dateTimeOffset cs
  | .decimal => Literal.decimal cs
  | .float => Literal.float cs
  | .guid => Literal.guid cs
  | .int => Literal.int cs
  | .text => .ok (.text (String.ofList (Literal.bare cs)))
  | .uint => Literal.uint cs
  | .enumeration e => Literal.enumeration e cs
  | .keyed ⟨path, keyKind, members⟩ =>
    (keyKind.readLiteral cs).bind fun value =>
      Literal.member ⟨path, keyKind, members⟩ (String.ofList cs) value
  | .nullable inner => inner.readLiteral cs
  | .list item => .error (.noLiterals (.list item))
  | .record schema => .error (.noLiterals (.record schema))
  | .unsupported => .error (.noLiterals .unsupported)

end TokenFilter
