import TokenFilter.Decimal.Basic

set_option autoImplicit false

namespace TokenFilter.Decimal

inductive ReadFault where
  | empty
  | noDigits
  | secondPoint
  | leadingSeparator
  | unknownCharacter
  | tooManyDigits
  | roundedPastLimit
  | noExponent
  | scalePastLimit (scale : Nat)
  | tooLarge
deriving DecidableEq, Repr

def ReadFault.message : ReadFault → String
  | .empty => "Invalid decimal: empty"
  | .noDigits => "Invalid decimal: no digits found"
  | .secondPoint => "Invalid decimal: two decimal points"
  | .leadingSeparator => "Invalid decimal: must start lead with a number"
  | .unknownCharacter => "Invalid decimal: unknown character"
  | .tooManyDigits => "Invalid decimal: overflow from too many digits"
  | .roundedPastLimit => "Invalid decimal: overflow from mantissa after rounding"
  | .noExponent => "Failed to parse"
  | .scalePastLimit scale =>
    "Scale exceeds the maximum precision allowed: " ++ toString scale ++ " > " ++ toString maxScale
  | .tooLarge => "Number exceeds maximum value that can be represented."

-- From this coefficient on, one more digit might not fit in 64 bits.
def longFrom : Nat := 1844674407370954906

structure Progress where
  point : Bool
  digit : Bool
  long : Bool
  coefficient : Nat
  scale : Nat

def Progress.push (p : Progress) (coefficient : Nat) : Progress where
  point := p.point
  digit := true
  long := decide (longFrom ≤ p.coefficient)
  coefficient := coefficient
  scale := if p.point then p.scale + 1 else 0

def strayFault (c : Char) : ReadFault :=
  if c = '.' then .secondPoint
  else if c = '_' then .leadingSeparator
  else .unknownCharacter

def isDigitOrSeparator (c : Char) : Bool := c.isDigit || c == '_'

-- The digits before the character `c`, which decides the rounding. A digit from five on rounds up,
-- and a coefficient that thereby gets too long loses its last digit. An underscore rounds down.
def roundedBy (p : Progress) (c : Char) : Except ReadFault (Nat × Nat) :=
  if !isDigitOrSeparator c then .error (strayFault c)
  else if c = '_' || Integer.digitValue c < 5 then .ok (p.coefficient, p.scale)
  else if p.coefficient + 1 < limit then .ok (p.coefficient + 1, p.scale)
  else if p.scale = 0 then .error .roundedPastLimit
  else .ok ((p.coefficient + 5) / 10, p.scale - 1)

def roundAt (p : Progress) (c : Char) (rest : List Char) : Except ReadFault (Nat × Nat) :=
  (roundedBy p c).bind fun rounded =>
    match rest.find? (!isDigitOrSeparator ·) with
    | some stray => .error (strayFault stray)
    | none => .ok rounded

-- Reads on after `p`: coefficient and scale of the whole. An underscore may stand anywhere after
-- the first digit; where no more digits fit, it is passed over only after a long coefficient.
def digitsFrom (p : Progress) : List Char → Except ReadFault (Nat × Nat)
  | [] => if p.digit then .ok (p.coefficient, p.scale) else .error .noDigits
  | c :: rest =>
    if c = '_' && p.digit && (p.long || p.scale != maxScale) then digitsFrom p rest
    else if p.scale == maxScale then roundAt p c rest
    else if c.isDigit then
      let next := p.coefficient * 10 + Integer.digitValue c
      if next < limit then digitsFrom (p.push next) rest
      else if p.point then roundAt p c rest
      else .error .tooManyDigits
    else if c = '.' && !p.point then digitsFrom { p with point := true } rest
    else .error (strayFault c)

def start : Progress := ⟨false, false, false, 0, 0⟩

def ofDigits (negative : Bool) (digits : Except ReadFault (Nat × Nat)) : Except ReadFault Decimal :=
  digits.bind fun (coefficient, scale) =>
    match make? negative coefficient scale with
    | some d => .ok d
    | none => .error .tooLarge

def readPlain : List Char → Except ReadFault Decimal
  | [] => .error .empty
  | '-' :: cs => ofDigits true (digitsFrom start cs)
  | '+' :: cs => ofDigits false (digitsFrom start cs)
  | cs => ofDigits false (digitsFrom start cs)

def isExponentMark (c : Char) : Bool := c == 'e' || c == 'E'

def readPower (cs : List Char) : Except ReadFault Nat :=
  match Integer.readNatural (UInt32.size - 1) cs with
  | .ok n => .ok n
  | .error _ => .error .noExponent

def scaleUp (d : Decimal) (power : Nat) : Except ReadFault Decimal :=
  if power ≤ d.scale then
    .ok { d with
      scale := d.scale - power
      scale_le := Nat.le_trans (Nat.sub_le _ _) d.scale_le }
  else if power > maxScale then .error (.scalePastLimit power)
  else
    match make? d.negative (d.coefficient * 10 ^ (power - d.scale)) 0 with
    | some product => .ok product
    | none => .error .tooLarge

-- The number divided by ten to the given power. Digits past the last place of the scale are
-- rounded away, and a zero that this leaves keeps its sign.
def scaleDown (d : Decimal) (power : Nat) : Except ReadFault Decimal :=
  if power > maxScale then .error (.scalePastLimit power)
  else if h : d.scale + power ≤ maxScale then
    .ok { d with scale := d.scale + power, scale_le := h }
  else
    .ok { d with
      coefficient := Rounding.halfUp d.coefficient (10 ^ (d.scale + power - maxScale))
      scale := maxScale
      coefficient_lt := Nat.lt_of_le_of_lt (Rounding.halfUp_le _ _) d.coefficient_lt
      scale_le := Nat.le_refl _ }

def readScientific (cs : List Char) : Except ReadFault Decimal :=
  match cs.dropWhile (!isExponentMark ·) with
  | [] => .error .noExponent
  | _ :: power => do
    let d ← readPlain (cs.takeWhile (!isExponentMark ·))
    match power with
    | '-' :: down => scaleDown d (← readPower down)
    | up => scaleUp d (← readPower up)

-- The plain reading, or else the one with a power of ten, whose fault is the one reported.
def read (cs : List Char) : Except ReadFault Decimal :=
  match readPlain cs with
  | .ok d => .ok d
  | .error _ => readScientific cs

end TokenFilter.Decimal
