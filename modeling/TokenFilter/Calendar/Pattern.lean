import TokenFilter.Calendar.Time
import TokenFilter.Text.Blank

set_option autoImplicit false

namespace TokenFilter.Calendar

inductive Fault where
  | outOfRange
  | invalid
  | tooShort
  | tooLong
deriving DecidableEq, Repr

def Fault.message : Fault → String
  | .outOfRange => "input is out of range"
  | .invalid => "input contains invalid characters"
  | .tooShort => "premature end of input"
  | .tooLong => "trailing input"

inductive Field where
  | year
  | month
  | day
  | hour
  | minute
  | second
deriving DecidableEq, Repr

def Field.width : Field → Nat
  | .year => 4
  | _ => 2

inductive Item where
  -- A field of up to its width, after white space. A year with a sign may be longer.
  | free (field : Field)
  | fixed (field : Field)
  | oneOf (choices : List Char)
  | blanks
  -- A point and digits, or nothing. Digits past the ninth do not count.
  | fraction
  -- An offset such as `+02:00`, after white space; colons and white space may part its halves.
  | looseOffset
  | strictOffset
deriving DecidableEq, Repr

abbrev Pattern := List Item

-- What has been read, with the values that stand for what a pattern does not mention. The offset is in minutes.
structure Reading where
  year : Int := 0
  month : Nat := 1
  day : Nat := 1
  hour : Nat := 0
  minute : Nat := 0
  second : Nat := 0
  nano : Nat := 0
  offset : Int := 0

abbrev Parsed (α : Type) := α × List Char

def digits (least : Nat) (most : Option Nat) (cs : List Char) : Except Fault (Parsed Nat) :=
  let found := match most with
    | some n => (cs.take n).takeWhile Char.isDigit
    | none => cs.takeWhile Char.isDigit
  if least ≤ found.length then .ok (Integer.ofDigits found, cs.drop found.length)
  else if cs.length ≤ found.length then .error .tooShort
  else .error .invalid

-- A year that does not fit in a signed 32-bit word is refused where it stands, other years past
-- the calendar's ends only once the whole text has been read.
def setYear (r : Reading) (year : Int) : Except Fault Reading :=
  if -2147483648 ≤ year ∧ year ≤ 2147483647 then .ok { r with year := year }
  else .error .outOfRange

def set (r : Reading) (n : Nat) : Field → Except Fault Reading
  | .year => setYear r n
  | .month => if 1 ≤ n ∧ n ≤ 12 then .ok { r with month := n } else .error .outOfRange
  | .day => if 1 ≤ n ∧ n ≤ 31 then .ok { r with day := n } else .error .outOfRange
  | .hour => if n ≤ 23 then .ok { r with hour := n } else .error .outOfRange
  | .minute => if n ≤ 59 then .ok { r with minute := n } else .error .outOfRange
  | .second => if n ≤ 60 then .ok { r with second := n } else .error .outOfRange

def readFree (r : Reading) (field : Field) (cs : List Char) : Except Fault (Parsed Reading) :=
  match field, Text.trimLeft cs with
  | .year, '-' :: rest => do
    let (n, rest) ← digits 1 none rest
    return (← setYear r (-(n : Int)), rest)
  | .year, '+' :: rest => do
    let (n, rest) ← digits 1 none rest
    return (← setYear r n, rest)
  | field, rest => do
    let (n, rest) ← digits 1 (some field.width) rest
    return (← set r n field, rest)

def readFixed (r : Reading) (field : Field) (cs : List Char) : Except Fault (Parsed Reading) := do
  let (n, rest) ← digits field.width (some field.width) cs
  return (← set r n field, rest)

def readOneOf (choices : List Char) : List Char → Except Fault (List Char)
  | [] => .error .tooShort
  | c :: rest => if choices.contains c then .ok rest else .error .invalid

def readFraction (r : Reading) : List Char → Except Fault (Parsed Reading)
  | '.' :: rest => do
    let (n, after) ← digits 1 (some 9) rest
    let count := rest.length - after.length
    return ({ r with nano := n * 10 ^ (9 - count) }, after.dropWhile Char.isDigit)
  | rest => .ok (r, rest)

def readSign : List Char → Except Fault (Parsed Bool)
  | [] => .error .tooShort
  | c :: rest =>
    if c = '+' then .ok (false, rest)
    else if c = '-' ∨ c = '−' then .ok (true, rest)
    else .error .invalid

def isOffsetMark (c : Char) : Bool := c == ':' || Text.isBlank c

def readOffset (r : Reading) (between : List Char → Except Fault (List Char)) (cs : List Char) :
    Except Fault (Parsed Reading) := do
  let (negative, rest) ← readSign cs
  let (hours, rest) ← digits 2 (some 2) rest
  let (minutes, rest) ← digits 2 (some 2) (← between rest)
  if minutes < 60 ∧ hours * 60 + minutes < 1440 then
    let offset : Int := (hours * 60 + minutes : Nat)
    return ({ r with offset := if negative then -offset else offset }, rest)
  else .error .outOfRange

def readStrictOffset (r : Reading) : List Char → Except Fault (Parsed Reading)
  | 'Z' :: rest => .ok ({ r with offset := 0 }, rest)
  | 'z' :: rest => .ok ({ r with offset := 0 }, rest)
  | cs => readOffset r (readOneOf [':']) cs

def Item.read (r : Reading) (cs : List Char) : Item → Except Fault (Parsed Reading)
  | .free field => readFree r field cs
  | .fixed field => readFixed r field cs
  | .oneOf choices => (readOneOf choices cs).map fun rest => (r, rest)
  | .blanks => .ok (r, Text.trimLeft cs)
  | .fraction => readFraction r cs
  | .looseOffset => readOffset r (fun rest => .ok (rest.dropWhile isOffsetMark)) (Text.trimLeft cs)
  | .strictOffset => readStrictOffset r cs

def Pattern.readFrom (r : Reading) (cs : List Char) : Pattern → Except Fault Reading
  | [] => if cs.isEmpty then .ok r else .error .tooLong
  | item :: rest => (item.read r cs).bind fun (r, cs) => readFrom r cs rest

def Pattern.read (pattern : Pattern) (cs : List Char) : Except Fault Reading :=
  pattern.readFrom {} cs

def Reading.date (r : Reading) : Except Fault Date :=
  match Date.make? r.year r.month r.day with
  | some date => .ok date
  | none => .error .outOfRange

def Reading.dateTime (r : Reading) : Except Fault DateTime :=
  r.date.bind fun date =>
    match Time.make? r.hour r.minute r.second r.nano with
    | some time => .ok ⟨date, time⟩
    | none => .error .outOfRange

def Reading.offsetDateTime (r : Reading) : Except Fault OffsetDateTime :=
  r.dateTime.bind fun dateTime =>
    match OffsetDateTime.make? dateTime (r.offset * 60) with
    | some d => .ok d
    | none => .error .outOfRange

end TokenFilter.Calendar
