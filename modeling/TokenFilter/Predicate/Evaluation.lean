import TokenFilter.Predicate.Basic

set_option autoImplicit false

namespace TokenFilter

-- An entity is what it answers for each slot; beyond its fields it answers nothing.
abbrev Entity := Nat → Option Value

def Value.descend (value : Value) : List Nat → Option Value
  | [] => some value
  | slot :: rest =>
    match value with
    | .record fields => fields[slot]?.bind fun inner => inner.descend rest
    | _ => none

def Entity.read (entity : Entity) : List Nat → Option Value
  | [] => none
  | slot :: rest => (entity slot).bind fun value => value.descend rest

structure Scope where
  entity : Entity
  item : Option Value

def Scope.read (scope : Scope) : Target → Option Value
  | .field ref => scope.entity.read ref.slots
  | .item => scope.item

def Comparison.holds (comparison : Comparison) (policy : Policy) (actual value : Value) : Bool :=
  match comparison with
  | .eq => (compareEq policy actual value).getD false
  | .gte => (compareOrder policy actual value).any Ordering.isGE
  | .lte => (compareOrder policy actual value).any Ordering.isLE

def aboveLower (policy : Policy) (actual : Value) (lower : Option Value) : Bool :=
  lower.all fun bound => (compareOrder policy actual bound).any Ordering.isGE

def belowUpper (policy : Policy) (actual : Value) (upper : Option Value) : Bool :=
  upper.all fun bound => (compareOrder policy actual bound).any Ordering.isLE

def Value.items : Value → List Value
  | .list items => items
  | _ => []

namespace Predicate

mutual
def holdsIn (scope : Scope) : Predicate → Bool
  | .and parts => allHold scope parts
  | .or parts => someHolds scope parts
  | .not inner => !holdsIn scope inner
  | .exists target inner =>
    (scope.read target).any fun value =>
      value.items.any fun item => holdsIn ⟨scope.entity, some item⟩ inner
  | .guarded target inner =>
    (scope.read target).any (fun value => !value.isNull) && holdsIn scope inner
  | .compare target comparison value policy =>
    (scope.read target).any fun actual => comparison.holds policy actual value
  | .range target lower upper policy =>
    (scope.read target).any fun actual =>
      aboveLower policy actual lower && belowUpper policy actual upper
  | .contains target value =>
    (scope.read target).any fun actual => (actual.textContains .sensitive value).getD false
  | .function target fn value =>
    (scope.read target).any fun actual => (fn.test actual value).getD false
def allHold (scope : Scope) : List Predicate → Bool
  | [] => true
  | part :: rest => holdsIn scope part && allHold scope rest
def someHolds (scope : Scope) : List Predicate → Bool
  | [] => false
  | part :: rest => holdsIn scope part || someHolds scope rest
end

def holds (p : Predicate) (entity : Entity) : Bool := p.holdsIn ⟨entity, none⟩

theorem allHold_eq (scope : Scope) (parts : List Predicate) :
    allHold scope parts = parts.all (holdsIn scope) := by
  induction parts with
  | nil => simp [allHold]
  | cons part rest ih => simp [allHold, ih]

theorem someHolds_eq (scope : Scope) (parts : List Predicate) :
    someHolds scope parts = parts.any (holdsIn scope) := by
  induction parts with
  | nil => simp [someHolds]
  | cons part rest ih => simp [someHolds, ih]

end Predicate

end TokenFilter
