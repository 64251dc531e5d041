import TokenFilter.Integer

set_option autoImplicit false

namespace TokenFilter

inductive Json where
  | null
  | bool (value : Bool)
  | number (text : String)
  | string (text : String)
  | array (items : List Json)
  | object (members : List (String × Json))
deriving Inhabited

namespace Json

def tagged (name : String) (value : Json) : Json := .object [(name, value)]

def ofInt (n : Int) : Json := .number (String.ofList (Integer.chars n))

def ofNat (n : Nat) : Json := ofInt n

def escapeChar (c : Char) : List Char :=
  if c = '"' then ['\\', '"']
  else if c = '\\' then ['\\', '\\']
  else if c = '\n' then ['\\', 'n']
  else if c = '\r' then ['\\', 'r']
  else if c = '\t' then ['\\', 't']
  else if c = '\x08' then ['\\', 'b']
  else if c = '\x0c' then ['\\', 'f']
  else if c.toNat < 32 then
    ['\\', 'u', '0', '0', (c.toNat / 16).digitChar, (c.toNat % 16).digitChar]
  else [c]

def quote (s : String) : String := String.ofList ('"' :: s.toList.flatMap escapeChar ++ ['"'])

mutual
def render : Json → String
  | .null => "null"
  | .bool true => "true"
  | .bool false => "false"
  | .number text => text
  | .string text => quote text
  | .array [] => "[]"
  | .array (item :: rest) => "[" ++ render item ++ renderItems rest ++ "]"
  | .object [] => "\x7b\x7d"
  | .object ((name, value) :: rest) =>
    "\x7b" ++ quote name ++ ":" ++ render value ++ renderMembers rest ++ "\x7d"
def renderItems : List Json → String
  | [] => ""
  | item :: rest => "," ++ render item ++ renderItems rest
def renderMembers : List (String × Json) → String
  | [] => ""
  | (name, value) :: rest => "," ++ quote name ++ ":" ++ render value ++ renderMembers rest
end

end Json

end TokenFilter
