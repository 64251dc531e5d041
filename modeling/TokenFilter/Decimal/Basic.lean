import TokenFilter.Binary.Basic
import TokenFilter.Integer

set_option autoImplicit false

namespace TokenFilter

def Decimal.limit : Nat := 2 ^ (96 : Nat)

def Decimal.maxScale : Nat := 28

structure Decimal where
  negative : Bool
  coefficient : Nat
  scale : Nat
  coefficient_lt : coefficient < Decimal.limit
  scale_le : scale ≤ Decimal.maxScale
deriving DecidableEq

namespace Decimal

def make? (negative : Bool) (coefficient scale : Nat) : Option Decimal :=
  if h : coefficient < limit ∧ scale ≤ maxScale then
    some ⟨negative && coefficient != 0, coefficient, scale, h.1, h.2⟩
  else none

def ofInt64 (n : Int64) : Decimal :=
  ⟨n.toInt < 0, n.toInt.natAbs, 0,
    by have := n.toInt_lt; have := n.le_toInt; unfold limit; omega, by decide⟩

def ofUInt64 (n : UInt64) : Decimal :=
  ⟨false, n.toNat, 0, by have := n.toNat_lt; unfold limit; omega, by decide⟩

def signed (d : Decimal) : Int := if d.negative then -(d.coefficient : Int) else d.coefficient

def raise? (coefficient digits : Nat) : Option Nat :=
  let raised := coefficient * 10 ^ digits
  if raised < limit then some raised else none

-- The coefficient of the lesser scale is raised to the other scale. Where it does not fit, its number is the
-- greater one.
def compareMagnitude (a b : Decimal) : Ordering :=
  if a.scale ≤ b.scale then
    match raise? a.coefficient (b.scale - a.scale) with
    | some raised => Ord.compare raised b.coefficient
    | none => .gt
  else
    match raise? b.coefficient (a.scale - b.scale) with
    | some raised => Ord.compare a.coefficient raised
    | none => .lt

protected def compare (a b : Decimal) : Ordering :=
  if b.coefficient = 0 then
    if a.coefficient = 0 then .eq else if a.negative then .lt else .gt
  else if a.coefficient = 0 then
    if b.negative then .gt else .lt
  else if a.negative != b.negative then
    if a.negative then .lt else .gt
  else if a.negative then b.compareMagnitude a
  else a.compareMagnitude b

def same (a b : Decimal) : Bool := a.compare b == .eq

-- A binary number near to the decimal one: the parts before and after the point are converted
-- apart, and where there is a fraction their sum is rounded to the digits of the scale. As every
-- step rounds, this need not be the nearest binary number.
def toBinary {f : Binary.Format} (d : Decimal) : Binary f :=
  let unit := 10 ^ d.scale
  let fraction := d.coefficient % unit
  let whole := f.nearest (d.coefficient / unit) 1
  if fraction = 0 then .number d.negative whole (Nat.min_le_right _ _)
  else
    let unit := f.nearest unit 1
    let sum := f.sum whole (f.ratio (f.nearest fraction 1) unit)
    .number d.negative (f.ratio (f.whole (f.product sum unit)) unit) (Nat.min_le_right _ _)

def chars (d : Decimal) : List Char :=
  let digits := Integer.paddedChars (d.scale + 1) d.coefficient
  let whole := digits.take (digits.length - d.scale)
  let fraction := digits.drop (digits.length - d.scale)
  let magnitude := if d.scale = 0 then whole else whole ++ '.' :: fraction
  if d.negative then '-' :: magnitude else magnitude

end Decimal

end TokenFilter
