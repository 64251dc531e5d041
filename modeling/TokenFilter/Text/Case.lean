import TokenFilter.Text.Case.Table

set_option autoImplicit false

namespace TokenFilter.Text

def isAscii (c : Char) : Bool := c.toNat < 128

-- The lower case of one character, apart from its neighbours. The dotted capital i alone becomes
-- two characters.
def lowerChar (c : Char) : List Char :=
  if c = '\u0130' then ['i', '\u0307']
  else match lowerRuns.find? (·.covers c.toNat) with
    | some run => [Char.ofNat (c.toNat + run.shift).toNat]
    | none => [c]

def isCased (c : Char) : Bool := casedRanges.holds c

def isCaseIgnorable (c : Char) : Bool := caseIgnorableRanges.holds c

def meetsCased (cs : List Char) : Bool :=
  (cs.dropWhile isCaseIgnorable).head?.any isCased

-- Lower case of the text after `before`, which is given last character first. A capital sigma at
-- the end of a word takes the final form.
def lowerAfter (before : List Char) : List Char → List Char
  | [] => []
  | c :: rest =>
    let lowered :=
      if c = 'Σ' then [if meetsCased before && !meetsCased rest then 'ς' else 'σ'] else lowerChar c
    lowered ++ lowerAfter (c :: before) rest

def lower (cs : List Char) : List Char := lowerAfter [] cs

def fold (cs : List Char) : List Char :=
  if cs.all isAscii then cs.map Char.toLower else lower cs

def folded (s : String) : String := String.ofList (fold s.toList)

-- Equal but for the case of ASCII letters, which alone `Char.toLower` changes.
def sameAscii (a b : List Char) : Bool := a.map Char.toLower == b.map Char.toLower

theorem toList_folded (s : String) : (folded s).toList = fold s.toList := by
  simp [folded]

end TokenFilter.Text
