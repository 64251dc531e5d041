set_option autoImplicit false

namespace TokenFilter

structure Guid where
  bits : BitVec 128
deriving DecidableEq

namespace Guid

inductive Fault where
  | invalidCharacter (c : Char) (position : Nat)
  | invalidLength (length : Nat)
  | groupCount (count : Nat)
  | groupLength (group expected length : Nat)
deriving DecidableEq, Repr

def Fault.message : Fault → String
  | .invalidCharacter c position =>
    "invalid character: found \x60" ++ c.toString ++ "\x60 at " ++ toString position
  | .invalidLength length => "invalid length: found " ++ toString length
  | .groupCount count => "invalid group count: expected 5, found " ++ toString count
  | .groupLength group expected length =>
    "invalid group length in group " ++ toString group ++ ": expected " ++ toString expected ++
      ", found " ++ toString length

def hexValue? (c : Char) : Option Nat :=
  if c.isDigit then some (c.toNat - '0'.toNat)
  else if 'a' ≤ c ∧ c ≤ 'f' then some (c.toNat - 'a'.toNat + 10)
  else if 'A' ≤ c ∧ c ≤ 'F' then some (c.toNat - 'A'.toNat + 10)
  else none

def hexFrom? (value : Nat) : List Char → Option Nat
  | [] => some value
  | c :: rest => (hexValue? c).bind fun digit => hexFrom? (value * 16 + digit) rest

def groupLengths : List Nat := [8, 4, 4, 4, 12]

def ofGroups? (cs : List Char) : Option Guid :=
  let groups := cs.splitOn '-'
  if groups.map List.length = groupLengths then
    (hexFrom? 0 groups.flatten).map fun n => ⟨BitVec.ofNat 128 n⟩
  else none

def groupFault? (group : Nat) : List Nat → List Nat → Option Fault
  | expected :: expecteds, length :: lengths =>
    if length = expected then groupFault? (group + 1) expecteds lengths
    else some (.groupLength group expected length)
  | _, _ => none

-- What keeps a text from being five groups: a character, the count of groups, or the length of
-- one. The text has `before` characters before it and is part of one of `size` bytes; the last
-- group is measured with all that follows the others there.
def groupsFault (before size : Nat) (cs : List Char) : Fault :=
  match cs.findIdx? (fun c => c != '-' && (hexValue? c).isNone) with
  | some i => .invalidCharacter (cs.getD i ' ') (before + i)
  | none =>
    let lengths := (cs.splitOn '-').map List.length
    if lengths.length ≠ 5 then .groupCount lengths.length
    else (groupFault? 0 (groupLengths.take 4) lengths).getD (.groupLength 4 12 (size - 24))

def bytes (cs : List Char) : Nat := cs.foldl (fun size c => size + c.utf8Size) 0

def groupedSize : Nat := 36

def readGroups (cs : List Char) : Except Fault Guid :=
  match ofGroups? cs with
  | some guid => .ok guid
  | none => .error (groupsFault 0 groupedSize cs)

def kindName : List Char := "urn:uuid:".toList

def unwrapped? (cs : List Char) : Option (Nat × List Char) :=
  if cs.head? = some '\x7b' ∧ cs.getLast? = some '\x7d' then some (1, (cs.drop 1).dropLast)
  else if (cs.take kindName.length).map Char.toLower = kindName then
    some (kindName.length, cs.drop kindName.length)
  else none

def maxSize : Nat := kindName.length + groupedSize

def read (cs : List Char) : Except Fault Guid :=
  let size := bytes cs
  if size > maxSize then .error (.invalidLength size)
  else if size = groupedSize then readGroups cs
  else
    match unwrapped? cs with
    | some (before, inner) =>
      if bytes inner = groupedSize then readGroups inner
      else .error (groupsFault before size inner)
    | none =>
      match hexFrom? 0 cs with
      | some n => if size = 32 then .ok ⟨BitVec.ofNat 128 n⟩ else .error (.invalidLength size)
      | none => .error (groupsFault 0 size cs)

protected def compare (a b : Guid) : Ordering := Ord.compare a.bits.toNat b.bits.toNat

def hexChars (g : Guid) : List Char :=
  let digits := Nat.toDigits 16 g.bits.toNat
  List.replicate (32 - digits.length) '0' ++ digits

def chars (g : Guid) : List Char :=
  let digits := g.hexChars
  digits.take 8 ++ '-' :: (digits.drop 8).take 4 ++ '-' :: (digits.drop 12).take 4 ++
    '-' :: (digits.drop 16).take 4 ++ '-' :: digits.drop 20

end Guid

end TokenFilter
