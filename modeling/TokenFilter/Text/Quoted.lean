import TokenFilter.Text.Quoted.Table

set_option autoImplicit false

namespace TokenFilter.Text

def codePointEscape (c : Char) : List Char :=
  ['\\', 'u', '\x7b'] ++ Nat.toDigits 16 c.toNat ++ ['\x7d']

def quoteChar (c : Char) : List Char :=
  if c = '\x00' then ['\\', '0']
  else if c = '\t' then ['\\', 't']
  else if c = '\r' then ['\\', 'r']
  else if c = '\n' then ['\\', 'n']
  else if c = '\\' then ['\\', '\\']
  else if c = '"' then ['\\', '"']
  else if hiddenRanges.holds c then codePointEscape c
  else [c]

def quoteChars (cs : List Char) : List Char := '"' :: cs.flatMap quoteChar ++ ['"']

def quoted (s : String) : String := String.ofList (quoteChars s.toList)

theorem toList_quoted (s : String) : (quoted s).toList = quoteChars s.toList := by
  simp [quoted]

end TokenFilter.Text
