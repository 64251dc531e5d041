import TokenFilter.Calendar.Pattern

set_option autoImplicit false

namespace TokenFilter.Calendar

def datePattern : Pattern :=
  [.free .year, .oneOf ['-'], .free .month, .oneOf ['-'], .free .day]

def minutePattern : Pattern := [.free .hour, .oneOf [':'], .free .minute]

def secondPattern : Pattern := minutePattern ++ [.oneOf [':'], .free .second, .fraction]

def letterT : Pattern := [.oneOf ['T']]

def dateTimePatterns : List Pattern :=
  [datePattern ++ letterT ++ secondPattern,
   datePattern ++ [.blanks] ++ secondPattern,
   datePattern ++ letterT ++ minutePattern,
   datePattern ++ [.blanks] ++ minutePattern]

def offsetPatterns : List Pattern :=
  [datePattern ++ letterT ++ secondPattern ++ [.looseOffset],
   datePattern ++ [.blanks] ++ secondPattern ++ [.looseOffset]]

def timestampPattern : Pattern :=
  [.fixed .year, .oneOf ['-'], .fixed .month, .oneOf ['-'], .fixed .day, .oneOf ['T', 't', ' '],
   .fixed .hour, .oneOf [':'], .fixed .minute, .oneOf [':'], .fixed .second, .fraction,
   .strictOffset]

def readDate (cs : List Char) : Except Fault Date := (datePattern.read cs).bind Reading.date

def readTimestamp (cs : List Char) : Except Fault OffsetDateTime :=
  (timestampPattern.read cs).bind Reading.offsetDateTime

def firstReading {α : Type} (value : Reading → Except Fault α) (patterns : List Pattern)
    (cs : List Char) : Option α :=
  patterns.findSome? fun pattern => ((pattern.read cs).bind value).toOption

-- A date and time. One with an offset is taken at universal time, a bare date at midnight, and the
-- fault reported is that of the bare date.
def readDateTime (cs : List Char) : Except Fault DateTime :=
  match firstReading Reading.dateTime dateTimePatterns cs with
  | some dateTime => .ok dateTime
  | none =>
    match readTimestamp cs with
    | .ok d => .ok d.universal
    | .error _ => (readDate cs).map fun date => ⟨date, .midnight⟩

def readOffsetDateTime (cs : List Char) : Except Fault OffsetDateTime :=
  match readTimestamp cs with
  | .ok d => .ok d
  | .error _ =>
    match firstReading Reading.offsetDateTime offsetPatterns cs with
    | some d => .ok d
    | none =>
      (readDateTime cs).bind fun dateTime =>
        match OffsetDateTime.make? dateTime 0 with
        | some d => .ok d
        | none => .error .outOfRange

end TokenFilter.Calendar
