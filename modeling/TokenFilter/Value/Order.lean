import TokenFilter.Value.Basic

set_option autoImplicit false

namespace TokenFilter

inductive Policy where
  | strict
  | numericWiden
  | dateTruncate
deriving DecidableEq, Repr

inductive Numeric where
  | exact (d : Decimal)
  | float (x : Binary64)

namespace Value

def numeric? : Value → Option Numeric
  | .decimal d => some (.exact d)
  | .float x => some (.float x)
  | .int n => some (.exact (.ofInt64 n))
  | .uint n => some (.exact (.ofUInt64 n))
  | _ => none

-- Whole numbers and decimals compare exactly. With a float on one side, the other is converted to
-- a float.
def compareNumeric (a b : Value) : Option Ordering :=
  match a.numeric?, b.numeric? with
  | some (.exact x), some (.exact y) => some (x.compare y)
  | some (.float x), some (.float y) => x.compare? y
  | some (.exact x), some (.float y) => x.toBinary.compare? y
  | some (.float x), some (.exact y) => x.compare? y.toBinary
  | _, _ => none

def compareStrict : Value → Value → Option Ordering
  | .bool a, .bool b => some (compare a b)
  | .date a, .date b => some (a.compare b)
  | .dateTime a, .dateTime b => some (a.compare b)
  | .dateTimeOffset a, .dateTimeOffset b => some (a.compare b)
  | .decimal a, .decimal b => some (a.compare b)
  | .float a, .float b => a.compare? b
  | .guid a, .guid b => some (a.compare b)
  | .int a, .int b => some (compare a.toInt b.toInt)
  | .text a, .text b => some (compare a b)
  | .uint a, .uint b => some (compare a.toNat b.toNat)
  | _, _ => none

end Value

def compareEq (policy : Policy) (a b : Value) : Option Bool :=
  match policy with
  | .strict => if a.alike b then some (a.same b) else none
  | .numericWiden =>
    if a.isNumeric && b.isNumeric then (a.compareNumeric b).map (· == .eq) else none
  | .dateTruncate =>
    if a.truncated.alike b.truncated then some (a.truncated.same b.truncated) else none

def compareOrder (policy : Policy) (a b : Value) : Option Ordering :=
  match policy with
  | .strict => a.compareStrict b
  | .numericWiden => if a.isNumeric && b.isNumeric then a.compareNumeric b else none
  | .dateTruncate => a.truncated.compareStrict b.truncated

end TokenFilter
