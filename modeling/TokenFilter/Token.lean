import TokenFilter.Error
import TokenFilter.Kind
import TokenFilter.Predicate.Basic

/-
Tokens: what a piece of text given for a field asks of it. A token is a negation `not(token)`, a
range `lower&upper`, a function such as `startsWith(text)`, or else a literal, which may stand in
`equals()` or in double quotes. Ranges exist for ranged kinds and functions for texts.
-/

set_option autoImplicit false

namespace TokenFilter

inductive Token where
  | not (inner : Token)
  | range (lower upper : Option (List Char))
  | function (fn : TextFunction) (argument : List Char)
  | literal (text : List Char)
deriving DecidableEq

namespace Token

structure Context where
  ranged : Bool
  textual : Bool
deriving DecidableEq, Repr

def Context.ofKind (kind : Kind) : Context := ⟨kind.isRanged, kind.isText⟩

def negationLimit : Nat := 32

structure Call where
  name : List Char
  argument : List Char

-- A name in ASCII letters, and an argument in the first parenthesis and the last character.
def call? (cs : List Char) : Option Call :=
  let name := cs.takeWhile Char.isAlpha
  match name, cs.dropWhile Char.isAlpha with
  | [], _ => none
  | _, '(' :: rest => if rest.getLast? = some ')' then some ⟨name, rest.dropLast⟩ else none
  | _, _ => none

def Call.isNamed (call : Call) (name : String) : Bool := Text.sameAscii call.name name.toList

def unquoted (cs : List Char) : List Char :=
  match cs with
  | '"' :: rest => if rest.getLast? = some '"' then rest.dropLast else cs
  | _ => cs

def bound? (cs : List Char) : Option (List Char) :=
  match Text.trim cs with
  | [] => none
  | bound => some bound

def readRange (cs : List Char) : Except Error Token :=
  match cs.splitOn '&' with
  | [lower, upper] => .ok (.range (bound? lower) (bound? upper))
  | parts => .error (.rangeArity (String.ofList cs) parts.length)

def literalText (cs : List Char) (call : Option Call) : List Char :=
  match call with
  | some call => unquoted (if call.isNamed "equals" then Text.trim call.argument else cs)
  | none => unquoted cs

def function? (context : Context) (call : Option Call) : Option Token :=
  if context.textual then
    call.bind fun call =>
      (TextFunction.ofName? call.name).map fun fn => .function fn call.argument
  else none

def readPositive (context : Context) (cs : List Char) (call : Option Call) : Except Error Token :=
  if context.ranged && cs.contains '&' then readRange cs
  else match function? context call with
    | some token => .ok token
    | none => .ok (.literal (literalText cs call))

def negated? (call : Option Call) : Option (List Char) :=
  call.bind fun call => if call.isNamed "not" then some call.argument else none

def readWithin (context : Context) : Nat → List Char → Except Error Token
  | 0, text =>
    let cs := Text.trim text
    match negated? (call? cs) with
    | some _ => .error (.negationDepth negationLimit)
    | none => readPositive context cs (call? cs)
  | levels + 1, text =>
    let cs := Text.trim text
    match negated? (call? cs) with
    | some inner => (readWithin context levels inner).map .not
    | none => readPositive context cs (call? cs)

def read (context : Context) (text : String) : Except Error Token :=
  readWithin context negationLimit text.toList

end Token

end TokenFilter
