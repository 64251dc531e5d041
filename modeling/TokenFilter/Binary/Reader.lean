import TokenFilter.Binary.Basic
import TokenFilter.Integer
import TokenFilter.Text.Case

set_option autoImplicit false

namespace TokenFilter.Binary

inductive ReadFault where
  | empty
  | invalid
deriving DecidableEq, Repr

def ReadFault.message : ReadFault → String
  | .empty => "cannot parse float from empty string"
  | .invalid => "invalid float literal"

structure DecimalParts where
  coefficient : Nat
  exponent : Int
deriving DecidableEq, Repr

-- No magnitude of ten to this power or above is finite in either format, and none of ten to its
-- negative or below is nearer to another number than to zero.
def farExponent : Int := 400

def DecimalParts.nearest {f : Format} (negative : Bool) (d : DecimalParts) : Binary f :=
  let top := (Integer.naturalChars d.coefficient).length + d.exponent
  if d.coefficient = 0 then .zero negative
  else if top > farExponent then .infinite negative
  else if top < -farExponent then .zero negative
  else match d.exponent with
    | .ofNat e => .ofQuotient negative (d.coefficient * 10 ^ e) 1
    | .negSucc e => .ofQuotient negative d.coefficient (10 ^ (e + 1))

def readExponent : List Char → Option Int
  | [] => some 0
  | c :: rest =>
    if c = 'e' ∨ c = 'E' then
      let (negative, digits) := match rest with
        | '-' :: digits => (true, digits)
        | '+' :: digits => (false, digits)
        | digits => (false, digits)
      if digits.isEmpty || !digits.all Char.isDigit then none
      else some (if negative then -(Integer.ofDigits digits : Int) else Integer.ofDigits digits)
    else none

def readParts (cs : List Char) : Option DecimalParts :=
  let whole := cs.takeWhile Char.isDigit
  let afterWhole := cs.dropWhile Char.isDigit
  let (fraction, rest) := match afterWhole with
    | '.' :: more => (more.takeWhile Char.isDigit, more.dropWhile Char.isDigit)
    | more => ([], more)
  if (whole ++ fraction).isEmpty then none
  else (readExponent rest).map fun exponent =>
    ⟨Integer.ofDigits (whole ++ fraction), exponent - fraction.length⟩

def readMagnitude {f : Format} (negative : Bool) (cs : List Char) : Except ReadFault (Binary f) :=
  match readParts cs with
  | some parts => .ok (parts.nearest negative)
  | none =>
    if Text.sameAscii cs "inf".toList || Text.sameAscii cs "infinity".toList then
      .ok (.infinite negative)
    else if Text.sameAscii cs "nan".toList then .ok .nan
    else .error .invalid

def read {f : Format} : List Char → Except ReadFault (Binary f)
  | [] => .error .empty
  | '-' :: cs => readMagnitude true cs
  | '+' :: cs => readMagnitude false cs
  | cs => readMagnitude false cs

end TokenFilter.Binary
