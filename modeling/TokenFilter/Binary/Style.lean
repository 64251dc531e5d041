import TokenFilter.Binary.Shortest
import TokenFilter.Integer

set_option autoImplicit false

namespace TokenFilter.Binary

structure Style where
  tie : Tie
  positional : Int → Bool
  pointZero : Bool
  plusExponent : Bool

def Style.plain : Style := ⟨.up, fun _ => true, false, false⟩

def Style.json : Style := ⟨.even, fun e => -5 ≤ e && e < 16, true, true⟩

def Style.named : Style := ⟨.up, fun e => -4 ≤ e && e < 16, true, false⟩

def positionalChars (pointZero : Bool) (digits : List Char) (point : Int) : List Char :=
  if point ≤ 0 then '0' :: '.' :: List.replicate (-point).toNat '0' ++ digits
  else
    let whole := digits.take point.toNat
    let filled := whole ++ List.replicate (point.toNat - whole.length) '0'
    match digits.drop point.toNat with
    | [] => if pointZero then filled ++ ['.', '0'] else filled
    | fraction => filled ++ '.' :: fraction

def exponentChars (plus : Bool) (digits : List Char) (exponent : Int) : List Char :=
  let mantissa := match digits with
    | [] => []
    | [d] => [d]
    | d :: rest => d :: '.' :: rest
  let mark := if plus && 0 ≤ exponent then ['e', '+'] else ['e']
  mantissa ++ mark ++ Integer.chars exponent

def Style.magnitudeChars (style : Style) (f : Format) (rank : Nat) : List Char :=
  if rank = 0 then positionalChars style.pointZero ['0'] 1
  else
    let (coefficient, exponent) := shortest f style.tie rank
    let digits := Integer.naturalChars coefficient
    let first := exponent + digits.length - 1
    if style.positional first then positionalChars style.pointZero digits (first + 1)
    else exponentChars style.plusExponent digits first

def Style.chars {f : Format} (style : Style) : Binary f → List Char
  | .nan => "NaN".toList
  | .number negative rank _ =>
    let magnitude :=
      if rank = f.infinity then "inf".toList else style.magnitudeChars f rank
    if negative then '-' :: magnitude else magnitude

def isFinite {f : Format} : Binary f → Bool
  | .nan => false
  | .number _ rank _ => rank < f.infinity

def chars {f : Format} (x : Binary f) : List Char := Style.plain.chars x

end TokenFilter.Binary
