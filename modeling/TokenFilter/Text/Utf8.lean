set_option autoImplicit false

namespace TokenFilter.Text

def utf8 (cs : List Char) : List UInt8 := cs.flatMap String.utf8EncodeChar

structure Unfinished where
  bits : Nat
  missing : Nat
  low : Nat
  high : Nat
deriving DecidableEq, Repr

def replacement : Char := '\ufffd'

def begin? (b : Nat) : Option Unfinished :=
  if 0xc2 ≤ b ∧ b ≤ 0xdf then some ⟨b - 0xc0, 1, 0x80, 0xbf⟩
  else if 0xe0 ≤ b ∧ b ≤ 0xef then
    some ⟨b - 0xe0, 2, if b = 0xe0 then 0xa0 else 0x80, if b = 0xed then 0x9f else 0xbf⟩
  else if 0xf0 ≤ b ∧ b ≤ 0xf4 then
    some ⟨b - 0xf0, 3, if b = 0xf0 then 0x90 else 0x80, if b = 0xf4 then 0x8f else 0xbf⟩
  else none

def startWith (b : Nat) : List Char × Option Unfinished :=
  if b < 0x80 then ([Char.ofNat b], none)
  else match begin? b with
    | some sequence => ([], some sequence)
    | none => ([replacement], none)

-- A byte that does not belong in the sequence ends it unfinished.
def goOnWith (s : Unfinished) (b : Nat) : List Char × Option Unfinished :=
  if s.low ≤ b ∧ b ≤ s.high then
    let bits := s.bits * 64 + (b - 0x80)
    if s.missing ≤ 1 then ([Char.ofNat bits], none)
    else ([], some ⟨bits, s.missing - 1, 0x80, 0xbf⟩)
  else
    let (cs, next) := startWith b
    (replacement :: cs, next)

def decodeFrom (state : Option Unfinished) : List UInt8 → List Char
  | [] => if state.isSome then [replacement] else []
  | b :: rest =>
    let (cs, next) := match state with
      | none => startWith b.toNat
      | some sequence => goOnWith sequence b.toNat
    cs ++ decodeFrom next rest

def decodeUtf8 (bytes : List UInt8) : List Char := decodeFrom none bytes

end TokenFilter.Text
