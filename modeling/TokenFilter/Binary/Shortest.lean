import TokenFilter.Binary.Basic

/-
The fewest decimal digits that read back as a given binary number. The search goes through the
powers of ten downwards and stops at the first of which some multiple is nearer to the number than
to any other number of the format.
-/

set_option autoImplicit false

namespace TokenFilter.Binary

inductive Tie where
  | up
  | even
deriving DecidableEq, Repr

structure Span where
  low : Nat
  value : Nat
  high : Nat
  denominator : Nat
  closed : Bool

-- The ends lie halfway to the neighbours, and belong to the span of a number of even rank.
def Format.span (f : Format) (rank : Nat) : Span where
  low := f.units (rank - 1) + f.units rank
  value := 2 * f.units rank
  high := f.units rank + f.units (rank + 1)
  denominator := 2 ^ (f.unitBits + 1)
  closed := rank % 2 == 0

def Span.shifted (s : Span) : Int → Span
  | .ofNat e => { s with denominator := s.denominator * 10 ^ e }
  | .negSucc e =>
    let by10 := 10 ^ (e + 1)
    { s with low := s.low * by10, value := s.value * by10, high := s.high * by10 }

def Span.holds (s : Span) (n : Nat) : Bool :=
  let m := n * s.denominator
  if s.closed then s.low ≤ m && m ≤ s.high else s.low < m && m < s.high

def Span.pick (tie : Tie) (s : Span) : Option Nat :=
  let below := s.value / s.denominator
  let rest := 2 * (s.value % s.denominator)
  let upper :=
    if rest == s.denominator then tie == .up || below % 2 == 1 else rest > s.denominator
  match s.holds below, s.holds (below + 1) with
  | true, true => some (if upper then below + 1 else below)
  | true, false => some below
  | false, true => some (below + 1)
  | false, false => none

def search (tie : Tie) (s : Span) : Nat → Int → Nat × Int
  | 0, exponent => ((s.shifted exponent).value / (s.shifted exponent).denominator, exponent)
  | fuel + 1, exponent =>
    match (s.shifted exponent).pick tie with
    | some digits => (digits, exponent)
    | none => search tie s fuel (exponent - 1)

-- The power of ten at which the search begins. No multiple of a greater one, zero apart, lies between
-- the number's neighbours.
def Span.topExponent (s : Span) : Int :=
  if s.denominator ≤ s.value then (Nat.toDigits 10 (s.value / s.denominator)).length
  else 1 - (Nat.toDigits 10 (s.denominator / s.value)).length

-- Digits and the power of ten of the last of them, for the magnitude of a positive rank. Twenty
-- steps down from the top are more than the digits of any number of either format.
def shortest (f : Format) (tie : Tie) (rank : Nat) : Nat × Int :=
  let s := f.span rank
  search tie s 20 s.topExponent

end TokenFilter.Binary
