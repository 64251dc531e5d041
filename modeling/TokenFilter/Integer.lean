set_option autoImplicit false

namespace TokenFilter.Integer

-- Powers of whole numbers are the core library's, whatever else a module imports.
instance (priority := 1100) naturalPower : Pow Nat Nat := instPowNat

instance (priority := 1100) power : Pow Int Nat := instPowNat

inductive Fault where
  | empty
  | invalidDigit
  | tooLarge
  | tooSmall
deriving DecidableEq, Repr

def Fault.message : Fault → String
  | .empty => "cannot parse integer from empty string"
  | .invalidDigit => "invalid digit found in string"
  | .tooLarge => "number too large to fit in target type"
  | .tooSmall => "number too small to fit in target type"

def digitValue (c : Char) : Nat := c.toNat - '0'.toNat

-- Digits read from the left, with `value` before them. Reading stops at the first character that
-- is no digit or that takes the number past `limit`.
def magnitudeFrom (limit : Nat) (past : Fault) (value : Nat) :
    List Char → Except Fault Nat
  | [] => .ok value
  | c :: rest =>
    if c.isDigit then
      let next := value * 10 + digitValue c
      if next ≤ limit then magnitudeFrom limit past next rest else .error past
    else .error .invalidDigit

def magnitude (limit : Nat) (past : Fault) : List Char → Except Fault Nat
  | [] => .error .invalidDigit
  | cs => magnitudeFrom limit past 0 cs

def readNatural (limit : Nat) : List Char → Except Fault Nat
  | [] => .error .empty
  | '+' :: cs => magnitude limit .tooLarge cs
  | cs => magnitude limit .tooLarge cs

def readInteger (below above : Nat) : List Char → Except Fault Int
  | [] => .error .empty
  | '-' :: cs => (magnitude below .tooSmall cs).map fun n => -(n : Int)
  | '+' :: cs => (magnitude above .tooLarge cs).map Int.ofNat
  | cs => (magnitude above .tooLarge cs).map Int.ofNat

def readInt64 (cs : List Char) : Except Fault Int64 :=
  (readInteger (Int64.size / 2) (Int64.size / 2 - 1) cs).map Int64.ofInt

def readUInt64 (cs : List Char) : Except Fault UInt64 :=
  (readNatural (UInt64.size - 1) cs).map UInt64.ofNat

def ofDigits (cs : List Char) : Nat := Nat.ofDigitChars 10 cs 0

def naturalChars (n : Nat) : List Char := Nat.toDigits 10 n

def chars : Int → List Char
  | .ofNat n => naturalChars n
  | .negSucc n => '-' :: naturalChars (n + 1)

def paddedChars (width n : Nat) : List Char :=
  let digits := naturalChars n
  List.replicate (width - digits.length) '0' ++ digits

end TokenFilter.Integer
