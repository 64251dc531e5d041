import TokenFilter.Kind
import TokenFilter.Binary.Style
import TokenFilter.Decimal.Basic
import TokenFilter.Calendar.Time
import TokenFilter.Guid
import TokenFilter.Text.Search

set_option autoImplicit false

namespace TokenFilter

open Calendar in
inductive Value where
  | bool (b : Bool)
  | keyed (path member : String) (key : Key)
  | date (d : Date)
  | dateTime (d : DateTime)
  | dateTimeOffset (d : OffsetDateTime)
  | decimal (d : Decimal)
  | enumeration (path variant : String)
  | float (x : Binary64)
  | guid (g : Guid)
  | int (n : Int64)
  | list (items : List Value)
  | null
  | record (fields : List Value)
  | text (s : String)
  | uint (n : UInt64)

def Enumeration.value (e : Enumeration) (variant : String) : Value := .enumeration e.path variant

def KeyedOf.value (k : Keyed) (member : Member) : Value := .keyed k.path member.name member.key

def KeyedOf.valueNamed? (k : Keyed) (name : String) : Option Value := (k.named? name).map k.value

namespace Value

def isNull : Value → Bool
  | .null => true
  | _ => false

def asText? : Value → Option String
  | .text s => some s
  | _ => none

def isNumeric : Value → Bool
  | .decimal _ | .float _ | .int _ | .uint _ => true
  | _ => false

-- The date of a value that has a time too; other values stay as they are, and so does a moment whose clocks show a day
-- past the ends of the calendar, which has no date.
def truncated : Value → Value
  | .dateTime d => .date d.date
  | .dateTimeOffset d =>
    match d.zoned? with
    | some zoned => .date zoned.date
    | none => .dateTimeOffset d
  | value => value

mutual
-- Equality as values: decimals and floats by their number, date-times with an offset by their
-- instant, and the rest part by part.
def same : Value → Value → Bool
  | .bool a, .bool b => a == b
  | .keyed p m k, .keyed p' m' k' => p == p' && m == m' && k == k'
  | .date a, .date b => a == b
  | .dateTime a, .dateTime b => a == b
  | .dateTimeOffset a, .dateTimeOffset b => a.same b
  | .decimal a, .decimal b => a.same b
  | .enumeration p v, .enumeration p' v' => p == p' && v == v'
  | .float a, .float b => a.same b
  | .guid a, .guid b => a == b
  | .int a, .int b => a == b
  | .list as, .list bs => allSame as bs
  | .null, .null => true
  | .record as, .record bs => allSame as bs
  | .text a, .text b => a == b
  | .uint a, .uint b => a == b
  | _, _ => false
def allSame : List Value → List Value → Bool
  | [], [] => true
  | a :: as, b :: bs => same a b && allSame as bs
  | _, _ => false
end

def alike : Value → Value → Bool
  | .bool _, .bool _ => true
  | .keyed .., .keyed .. => true
  | .date _, .date _ => true
  | .dateTime _, .dateTime _ => true
  | .dateTimeOffset _, .dateTimeOffset _ => true
  | .decimal _, .decimal _ => true
  | .enumeration .., .enumeration .. => true
  | .float _, .float _ => true
  | .guid _, .guid _ => true
  | .int _, .int _ => true
  | .list _, .list _ => true
  | .null, .null => true
  | .record _, .record _ => true
  | .text _, .text _ => true
  | .uint _, .uint _ => true
  | _, _ => false

end Value

inductive CaseMode where
  | sensitive
  | insensitive
deriving DecidableEq, Repr

namespace Value

def textTest (test : List Char → List Char → Bool) (mode : CaseMode) (a b : Value) :
    Option Bool :=
  match a.asText?, b.asText? with
  | some s, some t =>
    match mode with
    | .sensitive => some (test s.toList t.toList)
    | .insensitive => some (test (Text.fold s.toList) (Text.fold t.toList))
  | _, _ => none

def textEquals (mode : CaseMode) (a b : Value) : Option Bool := a.textTest (· == ·) mode b

def textContains (mode : CaseMode) (a word : Value) : Option Bool :=
  a.textTest (fun text w => Text.contains w text) mode word

def textStartsWith (mode : CaseMode) (a word : Value) : Option Bool :=
  a.textTest (fun text w => Text.startsWith w text) mode word

def textEndsWith (mode : CaseMode) (a word : Value) : Option Bool :=
  a.textTest (fun text w => Text.endsWith w text) mode word

end Value

end TokenFilter
