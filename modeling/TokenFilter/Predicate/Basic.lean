import TokenFilter.Value.Order

set_option autoImplicit false

namespace TokenFilter

inductive Comparison where
  | eq
  | gte
  | lte
deriving DecidableEq, Repr

def Comparison.symbol : Comparison → String
  | .eq => "="
  | .gte => ">="
  | .lte => "<="

inductive TextFunction where
  | startsWith
  | endsWith
  | contains
  | equals
deriving DecidableEq, Repr

namespace TextFunction

def all : List TextFunction := [.startsWith, .endsWith, .contains, .equals]

def name : TextFunction → String
  | .startsWith => "startsWith"
  | .endsWith => "endsWith"
  | .contains => "contains"
  | .equals => "equals"

def ofName? (name : List Char) : Option TextFunction :=
  all.find? fun function => Text.sameAscii function.name.toList name

def test (function : TextFunction) (value argument : Value) : Option Bool :=
  match function with
  | .startsWith => value.textStartsWith .insensitive argument
  | .endsWith => value.textEndsWith .insensitive argument
  | .contains => value.textContains .insensitive argument
  | .equals => value.textEquals .insensitive argument

end TextFunction

structure FieldRef where
  path : String
  slots : List Nat
deriving DecidableEq, Repr

-- What a leaf reads: a field, or the item at hand of the nearest `exists` around the leaf.
inductive Target where
  | field (ref : FieldRef)
  | item
deriving DecidableEq, Repr

inductive Predicate where
  | and (parts : List Predicate)
  | or (parts : List Predicate)
  | not (inner : Predicate)
  | exists (target : Target) (inner : Predicate)
  | guarded (target : Target) (inner : Predicate)
  | compare (target : Target) (comparison : Comparison) (value : Value) (policy : Policy)
  -- Between two bounds that themselves count. A bound may be absent.
  | range (target : Target) (lower upper : Option Value) (policy : Policy)
  | contains (target : Target) (value : Value)
  | function (target : Target) (fn : TextFunction) (value : Value)

namespace Predicate

def fold (join : List Predicate → Predicate) : List Predicate → Option Predicate
  | [] => none
  | [part] => some part
  | parts => some (join parts)

def foldAnd (parts : List Predicate) : Option Predicate := fold .and parts

def foldOr (parts : List Predicate) : Option Predicate := fold .or parts

end Predicate

def Target.fields : Target → List FieldRef
  | .field ref => [ref]
  | .item => []

namespace Predicate

mutual
def mentions : Predicate → List FieldRef
  | .and parts => allMentions parts
  | .or parts => allMentions parts
  | .not inner => mentions inner
  | .exists target inner => target.fields ++ mentions inner
  | .guarded target inner => target.fields ++ mentions inner
  | .compare target _ _ _ => target.fields
  | .range target _ _ _ => target.fields
  | .contains target _ => target.fields
  | .function target _ _ => target.fields
def allMentions : List Predicate → List FieldRef
  | [] => []
  | part :: rest => mentions part ++ allMentions rest
end

def fields (p : Predicate) : List FieldRef := p.mentions.eraseDups

def sameBound : Option Value → Option Value → Bool
  | none, none => true
  | some a, some b => a.same b
  | _, _ => false

mutual
def same : Predicate → Predicate → Bool
  | .and ps, .and qs => allSame ps qs
  | .or ps, .or qs => allSame ps qs
  | .not p, .not q => same p q
  | .exists t p, .exists u q => t == u && same p q
  | .guarded t p, .guarded u q => t == u && same p q
  | .compare t c v k, .compare u d w l => t == u && c == d && v.same w && k == l
  | .range t a b k, .range u c d l => t == u && sameBound a c && sameBound b d && k == l
  | .contains t v, .contains u w => t == u && v.same w
  | .function t f v, .function u g w => t == u && f == g && v.same w
  | _, _ => false
def allSame : List Predicate → List Predicate → Bool
  | [], [] => true
  | p :: ps, q :: qs => same p q && allSame ps qs
  | _, _ => false
end

theorem fold_eq_none_iff (join : List Predicate → Predicate) (parts : List Predicate) :
    fold join parts = none ↔ parts = [] := by
  match parts with
  | [] => simp [fold]
  | [_] => simp [fold]
  | _ :: _ :: _ => simp [fold]

end Predicate

end TokenFilter
