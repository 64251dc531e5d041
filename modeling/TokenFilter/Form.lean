import TokenFilter.Error
import TokenFilter.Query
import TokenFilter.Text.Utf8

set_option autoImplicit false

namespace TokenFilter.Form

def ampersand : UInt8 := 0x26
def equalsSign : UInt8 := 0x3d
def percent : UInt8 := 0x25
def plus : UInt8 := 0x2b
def space : UInt8 := 0x20

def hexValue? (b : UInt8) : Option UInt8 :=
  if 0x30 ≤ b ∧ b ≤ 0x39 then some (b - 0x30)
  else if 0x41 ≤ b ∧ b ≤ 0x46 then some (b - 0x41 + 10)
  else if 0x61 ≤ b ∧ b ≤ 0x66 then some (b - 0x61 + 10)
  else none

def escaped? (b : UInt8) (rest : List UInt8) : Option UInt8 :=
  match rest with
  | high :: low :: _ =>
    if b = percent then
      (hexValue? high).bind fun h => (hexValue? low).map fun l => h * 16 + l
    else none
  | _ => none

-- The bytes with every escape replaced, after `skip` bytes that belong to the last one. A percent
-- sign that begins no escape stays.
def unescapeAfter : Nat → List UInt8 → List UInt8
  | _, [] => []
  | skip + 1, _ :: rest => unescapeAfter skip rest
  | 0, b :: rest =>
    match escaped? b rest with
    | some value => value :: unescapeAfter 2 rest
    | none => b :: unescapeAfter 0 rest

def decodePart (bytes : List UInt8) : String :=
  let spaced := bytes.map fun b => if b = plus then space else b
  String.ofList (Text.decodeUtf8 (unescapeAfter 0 spaced))

def decodePiece (bytes : List UInt8) : String × String :=
  (decodePart (bytes.takeWhile (· != equalsSign)),
    decodePart ((bytes.dropWhile (· != equalsSign)).drop 1))

-- An empty piece is none. Whatever the bytes are, they are read as something.
def decode (text : String) : Except Error (List (String × String)) :=
  .ok ((((Text.utf8 text.toList).splitOn ampersand).filter fun piece => !piece.isEmpty).map decodePiece)

def query (text : String) : Except Error Query :=
  (decode text).map fun pieces => Query.collect (pieces.map fun piece => (piece.1, [piece.2]))

end TokenFilter.Form
